import Sidecars.FileSystem.Errno
import Sidecars.FileSystem.Tree

/-!
# Following paths

A file system is a tree, a place in it from which relative paths start, the permission bits that new
files and directories do not get, and what chance says when it is asked for a name.

The process that looks is privileged: permission bits keep it from nothing.  The device works, so a
path that cannot be followed is one that leads nowhere in the tree.

`resolve` follows a path as the system does: segment by segment, through symbolic links, each
segment but the last having to lead to a directory.  It ends at a *spot*, which is a node of the
tree or a free name in a directory.

* `advance` takes the segments up to the next symbolic link that has to be followed;
* `follow` goes on behind such links, of which there may be only so many.
-/

namespace Sidecars

/-- A file system as a process sees it. -/
structure FileSystem where
  /-- The whole tree. -/
  root : Node
  /-- The directory from which relative paths start. -/
  current : Location
  /-- The permission bits that are taken from the modes of new files and directories. -/
  umask : Nat
  /-- The number that chance gives to a temporary file, by the path of the file that is made by way
  of it.  It may be any. -/
  chance : Path → Nat := fun _ => 0

/-- A name in a directory, whether there is an entry of that name or not. -/
structure Place where
  /-- The directory. -/
  directory : Location
  /-- The name. -/
  name : Name
deriving DecidableEq, Repr

/-- The location of the entry at a place. -/
def Place.location (p : Place) : Location := p.directory ++ [p.name]

/-- The place of the entry at a location; the top of the tree is no entry. -/
def Place.ofLocation? (loc : Location) : Option Place :=
  loc.getLast?.map fun name => ⟨loc.dropLast, name⟩

/-- Where a path leads. -/
inductive Spot where
  /-- To a node. -/
  | found (loc : Location) (n : Node)
  /-- To a name that is not taken in a directory. -/
  | free (place : Place)

namespace Path

/-- What a segment of a path asks for. -/
inductive Step where
  /-- Nothing, except that there is a directory to stay in. -/
  | stay
  /-- The parent. -/
  | up
  /-- An entry. -/
  | down (name : Name)
deriving DecidableEq, Repr

/-- What a segment asks for. -/
def Step.ofSegment (segment : Bytes) : Step :=
  match Name.ofBytes? segment with
  | some name => .down name
  | none => if segment = [dot, dot] then .up else .stay

/-- What a path asks for, segment by segment.  A slash at the end asks to stay in a directory. -/
def steps (p : Path) : List Step := p.segments.map Step.ofSegment

/-- How many bytes a path has for which the system is too short. -/
def tooLong : Nat := 4096

/-- Why the system does not even look at a path, if so. -/
def refusal? (p : Path) : Option Errno :=
  if p.bytes.contains 0 then some .zeroByte
  else if p.bytes = [] then some .noEntry
  else if tooLong ≤ p.bytes.length then some .nameTooLong
  else none

end Path

namespace FileSystem

open Sidecars.Path (Step)

/-- How many symbolic links may be followed on the way. -/
def maxLinks : Nat := 40

/-- How far a path can be followed without following a symbolic link. -/
inductive Halt where
  /-- To its end. -/
  | arrived (spot : Spot)
  /-- To a link in a directory, with steps still to be taken behind it. -/
  | atLink (directory : Location) (target : Path) (rest : List Step)

/-- Takes steps from a node, up to a symbolic link that has to be followed.  A link at the very end
has to be followed only if `last` is set. -/
def advance (root : Node) (last : Bool) : Location → Node → List Step → Except Errno Halt
  | loc, n, [] => .ok (.arrived (.found loc n))
  | loc, n, step :: rest =>
    if ¬ n.isDirectory then .error .notDirectory
    else
      match step with
      | .stay => advance root last loc n rest
      | .up =>
        match root.get? loc.dropLast with
        | some parent => advance root last loc.dropLast parent rest
        | none => .error .noEntry
      | .down name =>
        if Name.maxLength < name.bytes.length then .error .nameTooLong
        else
          match n.child? name with
          | none => if rest = [] then .ok (.arrived (.free ⟨loc, name⟩)) else .error .noEntry
          | some (.link target) =>
            if rest = [] ∧ ¬ last then .ok (.arrived (.found (loc ++ [name]) (.link target)))
            else .ok (.atLink loc target rest)
          | some m => advance root last (loc ++ [name]) m rest

/-- Takes steps to their end, following at most so many links on the way. -/
def follow (root : Node) (last : Bool) : (links : Nat) → Location → List Step → Except Errno Spot
  | links, loc, steps =>
    match root.get? loc with
    | none => .error .noEntry
    | some n =>
      match advance root last loc n steps with
      | .error e => .error e
      | .ok (.arrived spot) => .ok spot
      | .ok (.atLink directory target rest) =>
        match links with
        | 0 => .error .tooManyLinks
        | links + 1 =>
          follow root last links (if target.isAbsolute then [] else directory) (target.steps ++ rest)

/-- Where a path leads.  A symbolic link at its very end is followed only if `last` is set. -/
def resolve (fs : FileSystem) (last : Bool) (p : Path) : Except Errno Spot :=
  match p.refusal? with
  | some e => .error e
  | none => follow fs.root last maxLinks (if p.isAbsolute then [] else fs.current) p.steps

/-- The node to which a path leads. -/
def nodeAt (fs : FileSystem) (last : Bool) (p : Path) : Except Errno Node :=
  match fs.resolve last p with
  | .ok (.found _ n) => .ok n
  | .ok (.free _) => .error .noEntry
  | .error e => .error e

/-- The node to which a path leads through all symbolic links. -/
def status (fs : FileSystem) (p : Path) : Except Errno Node := fs.nodeAt true p

/-- The node to which a path leads, which may be a symbolic link. -/
def linkStatus (fs : FileSystem) (p : Path) : Except Errno Node := fs.nodeAt false p

/-- What stands at a location. -/
def entryAt? (fs : FileSystem) (loc : Location) : Option Entry := fs.root.entryAt? loc

/-- The path of a location from the top of the tree. -/
def absolutePath (loc : Location) : Path :=
  loc.foldl (fun p name => p.join name.bytes) ⟨[Path.slash]⟩

/-- A path as it is from the top of the tree. -/
def absolute (fs : FileSystem) (p : Path) : Path :=
  if p.isAbsolute then p else (absolutePath fs.current).join p.bytes

/-! ## Looking -/

/-- Whether a path leads to something. -/
def pathExists (fs : FileSystem) (p : Path) : Bool := (fs.status p).isOk

/-- Whether a path leads to a directory. -/
def isDirectory (fs : FileSystem) (p : Path) : Bool :=
  match fs.status p with
  | .ok n => n.isDirectory
  | .error _ => false

/-- Whether a path leads to a regular file. -/
def isFile (fs : FileSystem) (p : Path) : Bool :=
  match fs.status p with
  | .ok n => n.isFile
  | .error _ => false

/-- What a node holds for a reader: the contents of a file, and nothing in a pipe into which
nobody writes. -/
def contents : Node → Except Errno Bytes
  | .file _ bytes => .ok bytes
  | .pipe _ => .ok []
  | .directory _ _ => .error .isDirectory
  | .link _ => .error .tooManyLinks

/-- The contents of the file to which a path leads. -/
def read (fs : FileSystem) (p : Path) : Except Errno Bytes :=
  match fs.status p with
  | .ok n => contents n
  | .error e => .error e

/-- The entries of a directory by ascending names, with their kinds. -/
def listing (n : Node) : List (Name × NodeKind) :=
  n.names.filterMap fun name => (n.child? name).map fun m => (name, m.kind)

/-- The entries of the directory to which a path leads. -/
def list (fs : FileSystem) (p : Path) : Except Errno (List (Name × NodeKind)) :=
  match fs.status p with
  | .ok n => if n.isDirectory then .ok (listing n) else .error .notDirectory
  | .error e => .error e

end FileSystem
end Sidecars
