import Sidecars.Proofs.Walk.Uniform

/-!
# What a walk comes upon

A walk passes over some of what it comes upon: a symbolic link counts only if it leads to a file
when its turn comes.  Here everything is kept that may count, so that it can be said of a link
whether it counts.

* `Walk.sightings` is what a walk through a file system that stays as it is comes upon;
* `Walk.look` is what a walk does there;
* `Walk.visit_eq_foldl` takes a walk apart into the two, and `Walk.items_eq_filterMap` its items.
-/

namespace Sidecars

/-- What a walk comes upon. -/
inductive Sight where
  /-- A file. -/
  | file (path : Path)
  /-- A symbolic link. -/
  | link (path : Path)
  /-- A directory that cannot be looked into. -/
  | fault (path : Path) (e : Errno)
deriving DecidableEq, Repr

namespace Sight

/-- What a walk meets there.  A link is followed in the file system `fs`. -/
def item? (fs : FileSystem) : Sight → Option WalkItem
  | .file p => some (.file (.ofPath p))
  | .link p => if fs.isFile p then some (.file (.ofPath p)) else none
  | .fault p e => some (.fault p e)

/-- Whether a walk meets something there in one file system and nothing in another one: only a link
can make a difference. -/
def onlyIn (fs fs' : FileSystem) : Sight → Bool
  | .link p => fs.isFile p && !fs'.isFile p
  | _ => false

end Sight

namespace Walk

variable {σ : Type} {fs : FileSystem} {system : σ → FileSystem} {meet : σ → WalkItem → σ}
  {depth : Nat} {s : σ} {p root : Path} {kind : NodeKind}

/-- What a walk comes upon at a path where a listing showed a node of some kind. -/
def sightings (fs : FileSystem) : (depth : Nat) → Path → NodeKind → List Sight
  | _, p, .file => [.file p]
  | _, p, .link => [.link p]
  | _, _, .pipe => []
  | 0, _, .directory => []
  | depth + 1, p, .directory =>
    match fs.list p with
    | .error e => [.fault p e]
    | .ok entries =>
      entries.flatMap fun entry => sightings fs depth (p.join entry.1.bytes) entry.2

/-- The state after something was come upon. -/
def look (system : σ → FileSystem) (meet : σ → WalkItem → σ) (s : σ) (x : Sight) : σ :=
  match x.item? (system s) with
  | some item => meet s item
  | none => s

lemma sightings_file : sightings fs depth p .file = [.file p] := by
  cases depth <;> rfl

lemma sightings_link : sightings fs depth p .link = [.link p] := by
  cases depth <;> rfl

lemma sightings_pipe : sightings fs depth p .pipe = [] := by
  cases depth <;> rfl

lemma visit_file_eq_look :
    visit system meet depth s p .file = look system meet s (.file p) := by
  rw [visit_file]
  rfl

lemma visit_link_eq_look :
    visit system meet depth s p .link = look system meet s (.link p) := by
  rw [visit_link, look, Sight.item?]
  split <;> rfl

/-- A walk looks at one after the other of the things it comes upon. -/
theorem visit_eq_foldl :
    visit (fun _ => fs) meet depth s p kind =
      (sightings fs depth p kind).foldl (look (fun _ => fs) meet) s := by
  induction depth generalizing s p kind with
  | zero =>
    cases kind with
    | file => rw [visit_file_eq_look, sightings_file]; rfl
    | link => rw [visit_link_eq_look, sightings_link]; rfl
    | pipe => rfl
    | directory => rfl
  | succ depth ih =>
    cases kind with
    | file => rw [visit_file_eq_look, sightings_file]; rfl
    | link => rw [visit_link_eq_look, sightings_link]; rfl
    | pipe => rfl
    | directory =>
      rw [visit, sightings]
      cases fs.list p with
      | error e => rfl
      | ok entries =>
        simp only [List.foldl_flatMap]
        simp only [ih]

lemma foldl_look_append (xs : List Sight) (items : List WalkItem) :
    xs.foldl (look (fun _ => fs) fun items item => items ++ [item]) items =
      items ++ xs.filterMap (Sight.item? fs) := by
  induction xs generalizing items with
  | nil => simp
  | cons x xs ih =>
    rw [List.foldl_cons, ih, look]
    cases hitem : x.item? fs <;> simp [hitem]

/-- The items of a walk are what counts of what it comes upon. -/
theorem items_eq_filterMap (h : fs.isDirectory root = true) :
    items fs root = (sightings fs maxDepth root .directory).filterMap (Sight.item? fs) := by
  rw [items, fold_eq_visit h, visit_eq_foldl, foldl_look_append, List.nil_append]

/-- What every item that is met lets through backwards, the walk does. -/
lemma of_visit {P : σ → Prop} (hmeet : ∀ s item, P (meet s item) → P s)
    (h : P (visit system meet depth s p kind)) : P s := by
  by_contra hs
  have hmeet' : ∀ s item, ¬ P s → ¬ P (meet s item) := by
    intro s item hs hitem
    exact hs (hmeet s item hitem)
  exact visit_induction hmeet' hs h

end Walk

end Sidecars
