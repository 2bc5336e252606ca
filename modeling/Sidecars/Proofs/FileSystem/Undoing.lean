import Sidecars.Proofs.FileSystem.Tree

/-!
# Changes that are taken back

An entry that was not there before, and that goes away in the end, leaves the tree as it was: not
only does the same stand everywhere, it is the same tree.

* `Node.update_update` and `Node.update_eq_self` are about changes to the entries of one directory;
* `FileSystem.drop_put` and `FileSystem.drop_modify` say that nothing of a change to an entry is left
  when the entry is dropped;
* `FileSystem.drop_eq_self` says that there is nothing to drop where there is no entry;
* `Change.IsAt` are the changes to the file at one place: `FileSystem.drop_applyAll` says that
  nothing is left of any number of them, and `Device.isAt_of_mem_done` that what is done of them is
  done there too when a call fails.
-/

namespace Sidecars

namespace Node

variable {name : Name} {es : List (Name × Node)}

/-! ## Entries -/

lemma drop_put (name : Name) (n : Node) (es : List (Name × Node)) :
    drop name (put name n es) = drop name es := by
  induction es with
  | nil => simp [put, drop]
  | cons e es ih =>
    obtain ⟨key, m⟩ := e
    rw [put]
    split
    · next hkey => simp [drop, hkey]
    · simp only [drop] at ih ⊢
      rw [List.filter_cons, List.filter_cons, ih]

lemma drop_of_lookup_eq_none (h : es.lookup name = none) : drop name es = es := by
  rw [drop, List.filter_eq_self]
  intro e he
  have hne : (name == e.1) = false := by simpa using List.lookup_eq_none_iff.1 h e he
  exact decide_eq_true fun heq => by simp [heq] at hne

lemma put_put (name : Name) (m n : Node) (es : List (Name × Node)) :
    put name n (put name m es) = put name n es := by
  induction es with
  | nil => simp [put]
  | cons e es ih =>
    obtain ⟨key, k⟩ := e
    by_cases hkey : name = key
    · simp [put, hkey]
    · simp [put, hkey, ih]

lemma put_eq_self {n : Node} (h : es.lookup name = some n) : put name n es = es := by
  induction es with
  | nil => simp at h
  | cons e es ih =>
    obtain ⟨key, m⟩ := e
    rw [put]
    split
    · next hkey =>
      subst hkey
      simp only [List.lookup_cons_self, Option.some.injEq] at h
      rw [h]
    · next hkey =>
      rw [List.lookup_cons, beq_false_of_ne hkey] at h
      rw [ih h]

/-! ## Directories -/

/-- Two changes of the entries of one directory are one change. -/
lemma update_update (f g : List (Name × Node) → List (Name × Node)) (dir : Location) (n : Node) :
    update f dir (update g dir n) = update (fun es => f (g es)) dir n := by
  induction dir generalizing n with
  | nil => cases n <;> rfl
  | cons name dir ih =>
    cases n with
    | file mode contents => rfl
    | link target => rfl
    | pipe mode => rfl
    | directory mode es =>
      simp only [update]
      cases hlookup : es.lookup name with
      | none => simp [update, hlookup]
      | some m => simp [update, lookup_put, put_put, ih]

/-- A change that does nothing to the entries of a directory does nothing to the tree. -/
lemma update_eq_self {change : List (Name × Node) → List (Name × Node)} {dir : Location} {n : Node}
    (h : ∀ d, n.get? dir = some d → change d.entries = d.entries) : update change dir n = n := by
  induction dir generalizing n with
  | nil =>
    cases n with
    | file mode contents => rfl
    | link target => rfl
    | pipe mode => rfl
    | directory mode es =>
      have hsame : change es = es := h _ rfl
      rw [update, hsame]
  | cons name dir ih =>
    cases n with
    | file mode contents => rfl
    | link target => rfl
    | pipe mode => rfl
    | directory mode es =>
      rw [update]
      cases hlookup : es.lookup name with
      | none => rfl
      | some m =>
        have hm : update change dir m = m := by
          refine ih fun d hd => h d ?_
          rw [get?_cons, child?, entries, hlookup]
          exact hd
        simp only [hm]
        rw [put_eq_self hlookup]

end Node

namespace FileSystem

variable {fs : FileSystem} {place : Place}

lemma drop_put (fs : FileSystem) (place : Place) (n : Node) :
    (fs.put place n).drop place = fs.drop place := by
  simp only [drop, put, Node.update_update, Node.drop_put]

lemma drop_drop (fs : FileSystem) (place : Place) : (fs.drop place).drop place = fs.drop place := by
  have htwice (es : List (Name × Node)) :
      Node.drop place.name (Node.drop place.name es) = Node.drop place.name es := by
    simp only [Node.drop, List.filter_filter, Bool.and_self]
  simp only [drop, Node.update_update, htwice]

lemma drop_modify (fs : FileSystem) (place : Place) (change : Node → Node) :
    (fs.modify place change).drop place = fs.drop place := by
  unfold modify
  split
  · exact drop_put fs place _
  · rfl

/-- There is nothing to drop where there is no entry. -/
lemma drop_eq_self (h : fs.entryAt? place.location = none) : fs.drop place = fs := by
  have hsame : fs.root.update (Node.drop place.name) place.directory = fs.root := by
    refine Node.update_eq_self fun d hd => Node.drop_of_lookup_eq_none ?_
    rw [entryAt?_eq, Place.location, Node.get?_concat hd, Option.map_eq_none_iff] at h
    exact h
  rw [drop, hsame]

end FileSystem

/-! ## Changes to one file -/

/-- Whether a change is made to the file at a place. -/
def Change.IsAt (place : Place) : Change → Prop
  | .create other _ | .setMode other _ | .write other _ | .flush other | .sync other
  | .remove other => other = place
  | .rename _ _ => False

namespace FileSystem

variable {fs : FileSystem} {place : Place} {changes : List Change}

/-- Nothing is left of a change to a file when the file goes away. -/
lemma drop_apply {c : Change} (hc : c.IsAt place) : (fs.apply c).drop place = fs.drop place := by
  cases c with
  | create other mode =>
    obtain rfl : other = place := hc
    exact drop_put fs other _
  | setMode other mode =>
    obtain rfl : other = place := hc
    exact drop_modify fs other _
  | write other contents =>
    obtain rfl : other = place := hc
    exact drop_modify fs other _
  | flush other => rfl
  | sync other => rfl
  | rename source target => exact hc.elim
  | remove other =>
    obtain rfl : other = place := hc
    exact drop_drop fs other

/-- Nothing is left of any number of changes to a file when the file goes away. -/
lemma drop_applyAll (h : ∀ c ∈ changes, c.IsAt place) :
    (fs.applyAll changes).drop place = fs.drop place := by
  induction changes generalizing fs with
  | nil => rfl
  | cons c changes ih =>
    have hrest : ((fs.apply c).applyAll changes).drop place = (fs.apply c).drop place :=
      ih fun c' hc' => h c' (by simp [hc'])
    exact hrest.trans (drop_apply (h c (by simp)))

/-- A file that was not there before, and that goes away in the end, leaves the file system as it
was. -/
lemma applyAll_concat_remove (h : ∀ c ∈ changes, c.IsAt place)
    (hfree : fs.entryAt? place.location = none) :
    fs.applyAll (changes ++ [.remove place]) = fs := by
  have hremove : fs.applyAll (changes ++ [.remove place]) = (fs.applyAll changes).drop place := by
    rw [applyAll_append]
    rfl
  rw [hremove, drop_applyAll h, drop_eq_self hfree]

end FileSystem

/-! ## Calls that fail -/

namespace Device

variable {device : Device} {place : Place} {changes : List Change}

lemma failure?_sound (changes : List Change) : sound.failure? changes = none := by
  rw [failure?, List.findSome?_eq_none_iff]
  exact fun c _ => rfl

/-- What is done of some changes to a file until a call fails is done to this file. -/
lemma isAt_of_mem_done (h : ∀ c ∈ changes, c.IsAt place) :
    ∀ c ∈ device.done changes, c.IsAt place := by
  induction changes with
  | nil => simp [done]
  | cons c changes ih =>
    rw [done]
    cases device c.call with
    | none =>
      rw [List.forall_mem_cons]
      exact ⟨h c (by simp), ih fun c' hc' => h c' (by simp [hc'])⟩
    | some r =>
      have hc := h c (by simp)
      cases c <;> simp_all [Change.part, Change.IsAt]

end Device

end Sidecars
