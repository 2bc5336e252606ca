import Sidecars.FileSystem.Lookup
import Sidecars.MediaFile

/-!
# Walking through a directory

A walk goes through everything below a root, depth first and in each directory by ascending names.
It meets every regular file, every symbolic link that leads to one, and every directory that it
cannot look into; links are not entered, except that the root may be one.

`Walk.fold` lets a state pass through the items that the walk meets.  The state may carry a file
system that changes on the way: a directory is listed when it is entered, and a link is followed
when its turn comes.  `Walk.items` is the list of the items in a file system that stays as it is.
-/

namespace Sidecars

/-- What a walk meets. -/
inductive WalkItem where
  /-- A file. -/
  | file (file : MediaFile)
  /-- Something that cannot be looked into. -/
  | fault (path : Path) (e : Errno)
deriving DecidableEq, Repr

/-- Where an item is. -/
def WalkItem.path : WalkItem → Path
  | .file f => f.path
  | .fault path _ => path

namespace Walk

variable {σ : Type}

/-- Lets a state pass through what is met at a path where a listing showed a node of some kind.
`depth` is how many levels of directories may still be entered. -/
def visit (system : σ → FileSystem) (meet : σ → WalkItem → σ) :
    (depth : Nat) → σ → Path → NodeKind → σ
  | _, s, path, .file => meet s (.file (.ofPath path))
  | _, s, path, .link => if (system s).isFile path then meet s (.file (.ofPath path)) else s
  | _, s, _, .pipe => s
  | 0, s, _, .directory => s
  | depth + 1, s, path, .directory =>
    match (system s).list path with
    | .error e => meet s (.fault path e)
    | .ok entries =>
      entries.foldl (fun s entry => visit system meet depth s (path.join entry.1.bytes) entry.2) s

/-- How many levels of directories can be entered: each adds to the length of the path, and a path
that is too long cannot be followed. -/
def maxDepth : Nat := Path.tooLong

/-- Lets a state pass through what a walk from a root meets.  A root that is a symbolic link is
taken for what it leads to if that is a directory. -/
def fold (system : σ → FileSystem) (meet : σ → WalkItem → σ) (root : Path) (s : σ) : σ :=
  match (system s).linkStatus root with
  | .error e => meet s (.fault root e)
  | .ok (.link _) =>
    match (system s).status root with
    | .error e => meet s (.fault root e)
    | .ok n => visit system meet maxDepth s root (if n.isDirectory then .directory else .link)
  | .ok n => visit system meet maxDepth s root n.kind

/-- What a walk from a root meets. -/
def items (fs : FileSystem) (root : Path) : List WalkItem :=
  fold (fun _ => fs) (fun met item => met ++ [item]) root []

/-- How many items a walk meets. -/
def count (fs : FileSystem) (root : Path) : Nat := (items fs root).length

end Walk
end Sidecars
