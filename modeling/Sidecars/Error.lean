import Sidecars.Audio.Error
import Sidecars.Exif.Error
import Sidecars.FileSystem.Errno
import Sidecars.Path
import Sidecars.Yaml.Document

/-!
# What can go wrong

The causes for which a file cannot be processed, a sidecar cannot be written or read, or a whole
scan cannot be made, with their wordings.
-/

namespace Sidecars

/-- Why something could not be done. -/
inductive Error where
  /-- There is nothing at a path. -/
  | pathNotFound (p : Path)
  /-- What is at a path is no directory. -/
  | notADirectory (p : Path)
  /-- A directory could not be looked into. -/
  | walk (p : Path) (e : Errno)
  /-- The EXIF block of an image cannot be read. -/
  | exif (e : Exif.Error)
  /-- The tags of a recording cannot be read. -/
  | tags (e : Audio.Error)
  /-- The metadata cannot be written as text. -/
  | unwritable (e : Yaml.WriteError)
  /-- The text of a sidecar is no document. -/
  | unreadable (e : Yaml.ReadError)
  /-- A file cannot be read, or not be made. -/
  | io (e : IoError)
  /-- A sidecar could not be put in its place. -/
  | persist (p : Path) (e : Errno)
  /-- A file is not what a sidecar looks like. -/
  | malformedSidecar (p : Path)
  /-- Some files could not be processed. -/
  | failures (n : Nat)
deriving Repr

/-- An error of the system about a path. -/
def Errno.messageOn (e : Errno) (p : Path) : String :=
  s!"IO error for operation on {p.display}: {e.message}"

/-- The wording of an error. -/
def Error.message : Error → String
  | .pathNotFound p => s!"Path not found: {p.display}"
  | .notADirectory p => s!"Not a directory: {p.display}"
  | .walk p e => s!"Error walking directory: {e.messageOn p}"
  | .exif e => s!"Error reading EXIF: {e.message}"
  | .tags e => s!"Error reading tags: {e.message}"
  | .unwritable e => s!"Error serializing metadata: {e.message}"
  | .unreadable e => s!"Error serializing metadata: {e.message}"
  | .io e => s!"I/O error: {e.message}"
  | .persist p e => s!"Error writing sidecar {p.display}: {e.message}"
  | .malformedSidecar p => s!"Malformed sidecar {p.display}"
  | .failures n => s!"{n} file(s) failed to process"

end Sidecars
