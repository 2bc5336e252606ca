import Sidecars.Path

/-!
# Errors of the file system

The reasons for which the system refuses an operation on a file, with their numbers and texts, and
the errors of reading and writing that have other causes or tell more.
-/

namespace Sidecars

/-- Why the system refuses an operation. -/
inductive Errno where
  /-- Something that only the owner may do. -/
  | notPermitted
  /-- A name does not exist. -/
  | noEntry
  /-- The device fails. -/
  | deviceFailure
  /-- The permission bits forbid it. -/
  | accessDenied
  /-- A name exists already. -/
  | alreadyThere
  /-- Something other than a directory has to be one. -/
  | notDirectory
  /-- A directory stands where there may be none. -/
  | isDirectory
  /-- A position before the start of a file. -/
  | invalidArgument
  /-- The device is full. -/
  | noSpace
  /-- Nothing on the device may be changed. -/
  | readOnly
  /-- A name or a path is too long. -/
  | nameTooLong
  /-- Too many symbolic links have to be followed. -/
  | tooManyLinks
  /-- A path with a zero byte, which is refused before the system sees it. -/
  | zeroByte
deriving DecidableEq, Repr

namespace Errno

/-- The number of an error, if the system has one for it. -/
def number? : Errno → Option Nat
  | .notPermitted => some 1
  | .noEntry => some 2
  | .deviceFailure => some 5
  | .accessDenied => some 13
  | .alreadyThere => some 17
  | .notDirectory => some 20
  | .isDirectory => some 21
  | .invalidArgument => some 22
  | .noSpace => some 28
  | .readOnly => some 30
  | .nameTooLong => some 36
  | .tooManyLinks => some 40
  | .zeroByte => none

/-- The text for an error. -/
def text : Errno → String
  | .notPermitted => "Operation not permitted"
  | .noEntry => "No such file or directory"
  | .deviceFailure => "Input/output error"
  | .accessDenied => "Permission denied"
  | .alreadyThere => "File exists"
  | .notDirectory => "Not a directory"
  | .isDirectory => "Is a directory"
  | .invalidArgument => "Invalid argument"
  | .noSpace => "No space left on device"
  | .readOnly => "Read-only file system"
  | .nameTooLong => "File name too long"
  | .tooManyLinks => "Too many levels of symbolic links"
  | .zeroByte => "file name contained an unexpected NUL byte"

/-- The text with the number. -/
def message (e : Errno) : String :=
  match e.number? with
  | some n => s!"{e.text} (os error {n})"
  | none => e.text

/-- The one-word name of the kind of error. -/
def kind : Errno → String
  | .notPermitted => "PermissionDenied"
  | .noEntry => "NotFound"
  | .deviceFailure => "Uncategorized"
  | .accessDenied => "PermissionDenied"
  | .alreadyThere => "AlreadyExists"
  | .notDirectory => "NotADirectory"
  | .isDirectory => "IsADirectory"
  | .invalidArgument => "InvalidInput"
  | .noSpace => "StorageFull"
  | .readOnly => "ReadOnlyFilesystem"
  | .nameTooLong => "InvalidFilename"
  | .tooManyLinks => "FilesystemLoop"
  | .zeroByte => "InvalidInput"

end Errno

/-- Why reading or writing a file fails. -/
inductive IoError where
  /-- The system refuses. -/
  | os (e : Errno)
  /-- The system refuses something about a temporary file, whose path is told. -/
  | temporary (e : Errno) (p : Path)
  /-- All names for temporary files in a directory are taken. -/
  | namesTaken (directory : Path)
  /-- The contents are no text. -/
  | notText
  /-- The contents end too soon. -/
  | unexpectedEnd
deriving DecidableEq, Repr

namespace IoError

/-- The wording of an error. -/
def message : IoError → String
  | .os e => e.message
  | .temporary e p => s!"{e.message} at path {p.quoted}"
  | .namesTaken directory => s!"too many temporary files exist at path {directory.quoted}"
  | .notText => "stream did not contain valid UTF-8"
  | .unexpectedEnd => "failed to fill whole buffer"

/-- The one-word name of the kind of error. -/
def kind : IoError → String
  | .os e => e.kind
  | .temporary e _ => e.kind
  | .namesTaken _ => Errno.alreadyThere.kind
  | .notText => "InvalidData"
  | .unexpectedEnd => "UnexpectedEof"

end IoError
end Sidecars
