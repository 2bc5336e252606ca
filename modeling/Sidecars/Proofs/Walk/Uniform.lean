import Sidecars.Proofs.FileSystem.Looking
import Sidecars.Proofs.Walk

/-!
# Walks that are shown the same

Two walks that look at the same file system at every step, but for what chance says, meet the same
items, whatever else their states hold.  So a relation between the two states that every item keeps
is kept by the whole walk.

* `Walk.Uniform` is what the relation has to be; `Walk.Uniform.fold` carries it through a walk.
* `Walk.fold_eq_foldl_met` takes a walk apart into the items that it meets and what it does with
  them, one after the other.
* `Walk.visit_induction` is the case of one walk and a property of its state.
-/

namespace Sidecars.Walk

variable {σ τ : Type} {system : σ → FileSystem} {meet : σ → WalkItem → σ}
  {system' : τ → FileSystem} {meet' : τ → WalkItem → τ} {R : σ → τ → Prop} {P : σ → Prop}

/-- A relation between the states of two walks under which they are shown the same file system, but
for what chance says, and which every item keeps. -/
structure Uniform (system : σ → FileSystem) (meet : σ → WalkItem → σ) (system' : τ → FileSystem)
    (meet' : τ → WalkItem → τ) (R : σ → τ → Prop) : Prop where
  /-- Both are shown the same. -/
  system : ∀ {s t}, R s t → ∃ chance, system' t = (system s).withChance chance
  /-- An item keeps the relation. -/
  meet : ∀ {s t}, R s t → ∀ item, R (meet s item) (meet' t item)

namespace Uniform

/-- What is no directory is met by both walks or by none. -/
lemma leaf (h : Uniform system meet system' meet' R) (depth : Nat) {s : σ} {t : τ} {p : Path}
    {kind : NodeKind} (hkind : kind ≠ .directory) (hR : R s t) :
    R (visit system meet depth s p kind) (visit system' meet' depth t p kind) := by
  cases kind with
  | directory => exact absurd rfl hkind
  | pipe =>
    rw [visit_pipe, visit_pipe]
    exact hR
  | file =>
    rw [visit_file, visit_file]
    exact h.meet hR _
  | link =>
    obtain ⟨chance, hsystem⟩ := h.system hR
    rw [visit_link, visit_link, hsystem, FileSystem.isFile_withChance]
    split
    · exact h.meet hR _
    · exact hR

/-- The relation holds again after both walks have gone through what lies at a path. -/
theorem visit (h : Uniform system meet system' meet' R) {depth : Nat} {s : σ} {t : τ} {p : Path}
    {kind : NodeKind} (hR : R s t) :
    R (Walk.visit system meet depth s p kind) (Walk.visit system' meet' depth t p kind) := by
  induction depth generalizing s t p kind with
  | zero =>
    by_cases hkind : kind = .directory
    · subst hkind
      exact hR
    · exact h.leaf 0 hkind hR
  | succ depth ih =>
    by_cases hkind : kind = .directory
    · subst hkind
      obtain ⟨chance, hsystem⟩ := h.system hR
      rw [Walk.visit, Walk.visit, hsystem, FileSystem.list_withChance]
      cases (system s).list p with
      | error e => exact h.meet hR _
      | ok entries => exact List.foldl_rel hR fun entry _ s t hR => ih hR
    · exact h.leaf _ hkind hR

/-- The relation holds at the end of two walks from a root if it holds at their start. -/
theorem fold (h : Uniform system meet system' meet' R) (root : Path) {s : σ} {t : τ} (hR : R s t) :
    R (Walk.fold system meet root s) (Walk.fold system' meet' root t) := by
  obtain ⟨chance, hsystem⟩ := h.system hR
  unfold Walk.fold
  rw [hsystem, FileSystem.linkStatus_withChance, FileSystem.status_withChance]
  split
  · exact h.meet hR _
  · split
    · exact h.meet hR _
    · exact h.visit hR
  · exact h.visit hR

end Uniform

/-- A walk does not depend on chance. -/
lemma items_withChance (fs : FileSystem) (chance : Path → Nat) (root : Path) :
    items (fs.withChance chance) root = items fs root := by
  have huniform : Uniform (fun _ => fs) (fun met item => met ++ [item])
      (fun _ => fs.withChance chance) (fun met item => met ++ [item])
      fun met met' : List WalkItem => met' = met := by
    refine ⟨fun _ => ⟨chance, rfl⟩, ?_⟩
    rintro met _ rfl item
    rfl
  exact huniform.fold root rfl

lemma count_withChance (fs : FileSystem) (chance : Path → Nat) (root : Path) :
    count (fs.withChance chance) root = count fs root := by
  rw [count, count, items_withChance]

/-! ## One walk -/

/-- A walk deals with the items that it meets one after the other. -/
theorem fold_eq_foldl_met (system : σ → FileSystem) (meet : σ → WalkItem → σ) (root : Path)
    (s : σ) : fold system meet root s = (met system meet root s).foldl meet s := by
  -- the other walk only gathers the items, and looks at the system to which they lead
  have huniform : Uniform system meet (fun items => system (items.foldl meet s))
      (fun items item => items ++ [item]) fun s' items => s' = items.foldl meet s := by
    refine ⟨?_, ?_⟩
    · rintro s' items rfl
      exact ⟨_, rfl⟩
    · rintro s' items rfl item
      rw [List.foldl_append]
      rfl
  exact huniform.fold root rfl

/-- What every item keeps, a walk keeps. -/
lemma visit_induction (hmeet : ∀ s item, P s → P (meet s item)) {depth : Nat} {s : σ} {p : Path}
    {kind : NodeKind} (hs : P s) : P (visit system meet depth s p kind) := by
  have huniform : Uniform system meet system meet fun s t => s = t ∧ P s := by
    refine ⟨?_, ?_⟩
    · rintro s t ⟨rfl, -⟩
      exact ⟨_, rfl⟩
    · rintro s t ⟨rfl, hs⟩ item
      exact ⟨rfl, hmeet s item hs⟩
  exact (huniform.visit ⟨rfl, hs⟩).2

end Sidecars.Walk
