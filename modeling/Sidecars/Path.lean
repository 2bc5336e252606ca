import Sidecars.Binary
import Sidecars.Text.Escaped

/-!
# Paths

A path is any sequence of bytes.  Two readings of it are used:

* `components` is the reading by meaning: repeated slashes and inner dots do not count, and two
  paths are *alike* when their components are equal;
* `segments` are the plain pieces between the slashes, which is what a file system walks along.
-/

namespace Sidecars

/-- A path, relative or absolute, as the bytes that spell it. -/
structure Path where
  /-- The spelling. -/
  bytes : Bytes
deriving DecidableEq, Repr

open Binary

namespace Path

/-- The byte that separates the segments of a path. -/
def slash : UInt8 := 0x2F

/-- The byte that stands before an extension. -/
def dot : UInt8 := 0x2E

/-- The path spelled by a text. -/
def ofString (s : String) : Path := ⟨Text.Utf8.encode s⟩

/-- The path as a message shows it. -/
def display (p : Path) : String := Text.Utf8.decodeLossy p.bytes

/-- The path between double quotes, with every byte accounted for. -/
def quoted (p : Path) : String := Text.Escaped.quoteBytes p.bytes

/-- The pieces between the slashes. -/
def segments (p : Path) : List Bytes := splitAt slash p.bytes

/-- Whether the path starts at the root of the file system. -/
def isAbsolute (p : Path) : Bool := p.bytes.head? = some slash

/-- One step of a path. -/
inductive Component where
  /-- The start of an absolute path. -/
  | root
  /-- A dot at the start of a relative path. -/
  | current
  /-- Two dots. -/
  | parent
  /-- A name. -/
  | normal (name : Bytes)
deriving DecidableEq, Repr

/-- The step that a segment stands for, if any: an empty segment and a dot stand for none. -/
def Component.ofSegment? (segment : Bytes) : Option Component :=
  if segment = [] ∨ segment = [dot] then none
  else if segment = [dot, dot] then some .parent
  else some (.normal segment)

/-- The steps of a path. -/
def components (p : Path) : List Component :=
  match p.bytes, p.segments with
  | [], _ => []
  | _, segments =>
    let steps := segments.filterMap Component.ofSegment?
    if p.isAbsolute then .root :: steps
    else if segments.head? = some [dot] then .current :: steps
    else steps

/-- Whether two spellings have the same steps. -/
def alike (p q : Path) : Bool := p.components = q.components

/-- The name at the end of a path, if its last step is a name. -/
def fileName? (p : Path) : Option Bytes :=
  match p.components.getLast? with
  | some (.normal name) => some name
  | _ => none

/-- The part of a name after its last dot; none when there is no dot or only one at the start. -/
def extensionOfName? (name : Bytes) : Option Bytes :=
  match (splitAt dot name).reverse with
  | last :: before :: more => if before = [] ∧ more = [] then none else some last
  | _ => none

/-- The extension of the file that a path names, as bytes. -/
def extension? (p : Path) : Option Bytes :=
  p.fileName?.bind extensionOfName?

/-- The entry `name` of the directory `p`. -/
def join (p : Path) (name : Bytes) : Path :=
  if p.bytes = [] ∨ p.bytes.getLast? = some slash then ⟨p.bytes ++ name⟩
  else ⟨p.bytes ++ slash :: name⟩

/-- The path followed by more bytes of the same name. -/
def append (p : Path) (suffix : Bytes) : Path := ⟨p.bytes ++ suffix⟩

/-- A path, written from its end, without the slashes and the segments `.` at its end. -/
def trimEnd : Bytes → Bytes
  | [] => []
  | [b] => if b = slash then [] else [b]
  | b :: c :: rest =>
    if b = slash ∨ (b = dot ∧ c = slash) then trimEnd (c :: rest) else b :: c :: rest

/-- The directory in which the last segment of a path stands: what is before the last slash, the
current directory when there is no slash, and the root when nothing else stands before it. -/
def directory (p : Path) : Path :=
  let kept := trimEnd (p.bytes.reverse.dropWhile (· ≠ slash))
  if ¬ p.bytes.contains slash then ⟨[dot]⟩
  else if kept = [] then ⟨[slash]⟩
  else ⟨kept.reverse⟩

end Path
end Sidecars
