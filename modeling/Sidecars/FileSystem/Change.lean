import Sidecars.FileSystem.Lookup

/-!
# Changing a file system

A `Change` is one step by which a program changes a file system; each concerns the entries at
places that are already resolved, and `apply` says what is there afterwards.  Writing a sidecar is
a list of changes, so that the states in between can be spoken of.

`apply` is what a call does that succeeds, for a privileged process: no permission bits keep it from
anything, and a file keeps all its bits when it is written.  A call can also fail for a reason that
is not in the tree, because the bits forbid it, the device is full or nothing may be changed on it.
That is what a `Device` is for: it says which calls fail, and `Device.done` says what has been done
of some changes by then.

The operations on paths below them (`writeFile`, `makeDirectories`, `makeLink`, …) are those with
which a tree is built up; they are made on a sound device.
-/

namespace Sidecars

/-- One step that changes a file system. -/
inductive Change where
  /-- A new file without contents. -/
  | create (place : Place) (mode : Nat)
  /-- A file gets a mode. -/
  | setMode (place : Place) (mode : Nat)
  /-- A file gets contents. -/
  | write (place : Place) (contents : Bytes)
  /-- What a program has held back of the contents is written.  It holds nothing back. -/
  | flush (place : Place)
  /-- A file is brought to the disk; nothing of it can be seen. -/
  | sync (place : Place)
  /-- An entry takes the place of another one, if there is one. -/
  | rename (source target : Place)
  /-- An entry goes away. -/
  | remove (place : Place)
deriving DecidableEq, Repr

namespace Node

/-- A node with another mode; links have none. -/
def withMode (mode : Nat) : Node → Node
  | .file _ contents => .file mode contents
  | .directory _ es => .directory mode es
  | .link target => .link target
  | .pipe _ => .pipe mode

/-- A file with other contents. -/
def withContents (contents : Bytes) : Node → Node
  | .file mode _ => .file mode contents
  | n => n

end Node

namespace FileSystem

/-- The mode of a new file or directory. -/
def masked (fs : FileSystem) (mode : Nat) : Nat := mode &&& (0o7777 ^^^ (fs.umask &&& 0o777))

/-- The file system with an entry set. -/
def put (fs : FileSystem) (place : Place) (n : Node) : FileSystem :=
  { fs with root := fs.root.update (Node.put place.name n) place.directory }

/-- The file system without an entry. -/
def drop (fs : FileSystem) (place : Place) : FileSystem :=
  { fs with root := fs.root.update (Node.drop place.name) place.directory }

/-- The node of an entry. -/
def nodeOf? (fs : FileSystem) (place : Place) : Option Node := fs.root.get? place.location

/-- The file system with a node changed, if it is there. -/
def modify (fs : FileSystem) (place : Place) (change : Node → Node) : FileSystem :=
  match fs.nodeOf? place with
  | some n => fs.put place (change n)
  | none => fs

/-- The file system after a change. -/
def apply (fs : FileSystem) : Change → FileSystem
  | .create place mode => fs.put place (.file mode [])
  | .setMode place mode => fs.modify place (Node.withMode mode)
  | .write place contents => fs.modify place (Node.withContents contents)
  | .flush _ | .sync _ => fs
  | .rename source target =>
    match fs.nodeOf? source with
    | some n => (fs.drop source).put target n
    | none => fs
  | .remove place => fs.drop place

/-- The file system after some changes. -/
def applyAll (fs : FileSystem) (changes : List Change) : FileSystem := changes.foldl apply fs

theorem applyAll_append (fs : FileSystem) (xs ys : List Change) :
    fs.applyAll (xs ++ ys) = (fs.applyAll xs).applyAll ys := by
  simp [applyAll, List.foldl_append]

/-! ## Calls that fail -/

end FileSystem

/-- The calls by which changes are made. -/
inductive Call where
  /-- Makes a file. -/
  | create
  /-- Gives a file a mode. -/
  | setMode
  /-- Gives a file contents. -/
  | write
  /-- Writes what has been held back. -/
  | flush
  /-- Brings a file to the disk. -/
  | sync
  /-- Puts an entry in the place of another one. -/
  | rename
  /-- Takes an entry away. -/
  | remove
deriving DecidableEq, Repr

namespace Change

/-- The call by which a change is made. -/
def call : Change → Call
  | .create _ _ => .create
  | .setMode _ _ => .setMode
  | .write _ _ => .write
  | .flush _ => .flush
  | .sync _ => .sync
  | .rename _ _ => .rename
  | .remove _ => .remove

/-- What is done of a change whose call fails: of some contents, the first bytes may be written. -/
def part (written : Nat) : Change → List Change
  | .write place contents => [.write place (contents.take written)]
  | _ => []

end Change

/-- How a call fails. -/
structure Refusal where
  /-- The error. -/
  errno : Errno
  /-- How many bytes the call has written by then, if it writes any. -/
  written : Nat
deriving DecidableEq, Repr

/-- A device, by the calls that fail on it. -/
def Device : Type := Call → Option Refusal

namespace Device

/-- The device on which no call fails. -/
def sound : Device := fun _ => none

/-- The first call that fails when some changes are made, with its error. -/
def failure? (device : Device) (changes : List Change) : Option (Call × Errno) :=
  changes.findSome? fun c => (device c.call).map fun r => (c.call, r.errno)

/-- What is done of some changes until a call fails. -/
def done (device : Device) : List Change → List Change
  | [] => []
  | c :: changes =>
    match device c.call with
    | some r => c.part r.written
    | none => c :: device.done changes

end Device

namespace FileSystem

/-! ## Building a tree -/

/-- A file system with one empty directory of a name, in which one is. -/
def fresh (name : Name) : FileSystem where
  root := .directory 0o755 [(name, .directory 0o755 [])]
  current := [name]
  umask := 0o022

/-- Sets what a path leads to, if the name is free. -/
def make (fs : FileSystem) (p : Path) (n : Node) : Except Errno FileSystem :=
  match fs.resolve false p with
  | .ok (.free place) => .ok (fs.put place n)
  | .ok (.found _ _) => .error .alreadyThere
  | .error e => .error e

/-- A path without the slashes at its end. -/
def withoutEndingSlashes (p : Path) : Path :=
  ⟨(p.bytes.reverse.dropWhile (· = Path.slash)).reverse⟩

/-- Makes a directory. -/
def makeDirectory (fs : FileSystem) (p : Path) : Except Errno FileSystem :=
  fs.make (if (withoutEndingSlashes p).bytes = [] then p else withoutEndingSlashes p)
    (.directory (fs.masked 0o777) [])

/-- Makes a directory unless it is there, and before it those that lead to it.  The path is given
by its segments, the last one first. -/
def makeDirectoriesAt (fs : FileSystem) : List Bytes → Except Errno FileSystem
  | [] => .ok fs
  | segment :: before =>
    let p : Path := ⟨List.intercalate [Path.slash] (segment :: before).reverse⟩
    match fs.makeDirectory p with
    | .ok fs => .ok fs
    | .error .noEntry =>
      match fs.makeDirectoriesAt before with
      | .ok fs => fs.makeDirectory p
      | .error e => .error e
    | .error e => if fs.isDirectory p then .ok fs else .error e

/-- Makes a directory unless it is there, and before it those that lead to it. -/
def makeDirectories (fs : FileSystem) (p : Path) : Except Errno FileSystem :=
  if p.bytes = [] then .ok fs else fs.makeDirectoriesAt p.segments.reverse

/-- Gives a file contents; makes the file if it is not there. -/
def writeFile (fs : FileSystem) (p : Path) (contents : Bytes) : Except Errno FileSystem :=
  match fs.resolve true p with
  | .ok (.free place) => .ok (fs.put place (.file (fs.masked 0o666) contents))
  | .ok (.found loc n) =>
    match Place.ofLocation? loc, n.isDirectory with
    | some place, false => .ok (fs.modify place (Node.withContents contents))
    | _, _ => .error .isDirectory
  | .error e => .error e

/-- Makes a symbolic link. -/
def makeLink (fs : FileSystem) (p target : Path) : Except Errno FileSystem :=
  match target.refusal? with
  | some e => .error e
  | none => fs.make p (.link target)

/-- Makes a named pipe. -/
def makePipe (fs : FileSystem) (p : Path) (mode : Nat) : Except Errno FileSystem :=
  fs.make p (.pipe (fs.masked mode))

/-- Gives what a path leads to a mode. -/
def setMode (fs : FileSystem) (p : Path) (mode : Nat) : Except Errno FileSystem :=
  match fs.resolve true p with
  | .ok (.found loc _) =>
    match Place.ofLocation? loc with
    | some place => .ok (fs.modify place (Node.withMode mode))
    | none => .ok { fs with root := fs.root.withMode mode }
  | .ok (.free _) => .error .noEntry
  | .error e => .error e

/-- Takes an entry that is no directory away. -/
def unlink (fs : FileSystem) (p : Path) : Except Errno FileSystem :=
  match fs.resolve false p with
  | .ok (.found loc n) =>
    match Place.ofLocation? loc, n.isDirectory with
    | some place, false => .ok (fs.drop place)
    | _, _ => .error .isDirectory
  | .ok (.free _) => .error .noEntry
  | .error e => .error e

/-- Goes to a directory, from which relative paths then start. -/
def enter (fs : FileSystem) (p : Path) : Except Errno FileSystem :=
  match fs.resolve true p with
  | .ok (.found loc n) => if n.isDirectory then .ok { fs with current := loc } else .error .notDirectory
  | .ok (.free _) => .error .noEntry
  | .error e => .error e

end FileSystem
end Sidecars
