import Sidecars.FileSystem.Name

/-!
# Trees of files

What a file system holds is a tree: directories with named entries, and files, symbolic links and
named pipes as leaves.  `Node.get?` is the node at a location, `Node.entries` what a directory
holds, and `Node.update` changes the entries of one directory and nothing else.

A tree is observed through `Node.entryAt?`, which tells what stands at a location but not what lies
below it; two trees with the same entries are the same to everyone who looks.
-/

namespace Sidecars

/-- The names that lead from the top of a tree to a node. -/
abbrev Location := List Name

/-- A node of a tree of files.  Modes are the permission bits. -/
inductive Node where
  /-- A regular file. -/
  | file (mode : Nat) (contents : Bytes)
  /-- A directory. -/
  | directory (mode : Nat) (entries : List (Name × Node))
  /-- A symbolic link. -/
  | link (target : Path)
  /-- A named pipe. -/
  | pipe (mode : Nat)

/-- What can be told of a node without looking below it. -/
inductive Entry where
  /-- A regular file. -/
  | file (mode : Nat) (contents : Bytes)
  /-- A directory. -/
  | directory (mode : Nat)
  /-- A symbolic link. -/
  | link (target : Path)
  /-- A named pipe. -/
  | pipe (mode : Nat)
deriving DecidableEq, Repr

/-- The kinds of nodes, as a listing tells them. -/
inductive NodeKind where
  /-- A regular file. -/
  | file
  /-- A directory. -/
  | directory
  /-- A symbolic link. -/
  | link
  /-- A named pipe. -/
  | pipe
deriving DecidableEq, Repr

namespace Node

/-- The node without what lies below it. -/
def entry : Node → Entry
  | .file mode contents => .file mode contents
  | .directory mode _ => .directory mode
  | .link target => .link target
  | .pipe mode => .pipe mode

/-- The kind of a node. -/
def kind : Node → NodeKind
  | .file _ _ => .file
  | .directory _ _ => .directory
  | .link _ => .link
  | .pipe _ => .pipe

/-- Whether a node is a directory. -/
def isDirectory (n : Node) : Bool := n.kind = .directory

/-- Whether a node is a regular file. -/
def isFile (n : Node) : Bool := n.kind = .file

/-- The entries of a node; only a directory has any. -/
def entries : Node → List (Name × Node)
  | .directory _ es => es
  | _ => []

/-- The entry of a name. -/
def child? (n : Node) (name : Name) : Option Node := n.entries.lookup name

/-- The names of the entries of a node, each once and in ascending order. -/
def names (n : Node) : List Name := Name.sorted (n.entries.map Prod.fst)

/-- The node at a location. -/
def get? (n : Node) : Location → Option Node
  | [] => some n
  | name :: loc => (n.child? name).bind fun m => m.get? loc

/-- What stands at a location. -/
def entryAt? (n : Node) (loc : Location) : Option Entry := (n.get? loc).map entry

/-- Entries with one of them set: in its place if the name is there, else at the end. -/
def put (name : Name) (n : Node) : List (Name × Node) → List (Name × Node)
  | [] => [(name, n)]
  | (other, m) :: es => if name = other then (name, n) :: es else (other, m) :: put name n es

/-- Entries without those of a name. -/
def drop (name : Name) (es : List (Name × Node)) : List (Name × Node) :=
  es.filter fun e => e.1 ≠ name

/-- The tree with the entries of the directory at a location changed; the same tree if there is
no directory. -/
def update (change : List (Name × Node) → List (Name × Node)) : Location → Node → Node
  | [], .directory mode es => .directory mode (change es)
  | name :: loc, .directory mode es =>
    match es.lookup name with
    | some n => .directory mode (put name (update change loc n) es)
    | none => .directory mode es
  | _, n => n

theorem lookup_put (name other : Name) (n : Node) (es : List (Name × Node)) :
    (put name n es).lookup other = if other = name then some n else es.lookup other := by
  induction es with
  | nil =>
    by_cases h : other = name
    · simp [put, h]
    · simp [put, h, List.lookup_cons, beq_false_of_ne h]
  | cons e es ih =>
    obtain ⟨key, m⟩ := e
    by_cases hk : name = key
    · subst hk
      by_cases h : other = name
      · simp [put, h]
      · simp [put, h, List.lookup_cons, beq_false_of_ne h]
    · by_cases h : other = key
      · subst h
        have hne : other ≠ name := fun h => hk h.symm
        simp [put, hk, hne]
      · simp [put, hk, List.lookup_cons, beq_false_of_ne h, ih]

theorem lookup_drop (name other : Name) (es : List (Name × Node)) :
    (drop name es).lookup other = if other = name then none else es.lookup other := by
  induction es with
  | nil => simp [drop]
  | cons e es ih =>
    obtain ⟨key, m⟩ := e
    have ih' : List.lookup other (es.filter fun e => e.1 ≠ name) =
        if other = name then none else es.lookup other := ih
    by_cases hk : key = name
    · subst hk
      by_cases h : other = key
      · subst h
        simpa [drop] using ih'
      · simp only [drop, ne_eq, not_true_eq_false, decide_false, Bool.false_eq_true,
          not_false_eq_true, List.filter_cons_of_neg, List.lookup_cons, beq_false_of_ne h, h,
          ↓reduceIte]
        simpa [h] using ih'
    · by_cases h : other = key
      · subst h
        simp [drop, hk]
      · have : drop name ((key, m) :: es) = (key, m) :: drop name es := by
          simp [drop, hk]
        rw [this, List.lookup_cons, beq_false_of_ne h, ih, List.lookup_cons, beq_false_of_ne h]

end Node
end Sidecars
