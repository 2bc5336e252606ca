import Sidecars.Proofs.Except
import Sidecars.Yaml.Document
import Mathlib.Data.List.Pairwise

/-!
# No key twice

A mapping that is read binds no key twice, at any depth, so a field of it is one of its pairs.

* `Distinct` says this of a value;
* `distinct_of_build` keeps it while a value is built, and `distinct_of_read` has it of a document;
* `Distinct.field?_eq_some_iff` finds a field.
-/

namespace Sidecars.Yaml

variable {v : Value} {es : Entries}

/-- No mapping in a value binds a key twice. -/
inductive Distinct : Value → Prop
  | null : Distinct .null
  | bool (b : Bool) : Distinct (.bool b)
  | int (n : Int) : Distinct (.int n)
  | float (x : Binary64) : Distinct (.float x)
  | string (s : String) : Distinct (.string s)
  | sequence {xs : List Value} (h : ∀ x ∈ xs, Distinct x) : Distinct (.sequence xs)
  | mapping {es : Entries} (hkeys : es.Pairwise fun a b => a.1.same b.1 = false)
      (h₁ : ∀ e ∈ es, Distinct e.1) (h₂ : ∀ e ∈ es, Distinct e.2) : Distinct (.mapping es)
  | tagged (name : String) {v : Value} (h : Distinct v) : Distinct (.tagged name v)

/-! ## Building -/

lemma distinct_of_plainValue {text : String} (h : plainValue text = .ok v) : Distinct v := by
  unfold plainValue at h
  split at h <;> cases h <;> constructor

/-- A scalar is no mapping. -/
lemma distinct_of_scalarValue {known : Bool} {tag : Option Bytes} {text : String}
    {form : ScalarForm} (h : scalarValue known tag text form = .ok v) : Distinct v := by
  have huntagged (h : (if form = .plain then plainValue text else .ok (.string text)) = .ok v) :
      Distinct v := by
    split at h
    · exact distinct_of_plainValue h
    · cases h
      constructor
  unfold scalarValue at h
  simp only at h
  -- a tag that has been dealt with, then the tags of the core schema, then any other
  split at h
  · exact huntagged h
  split at h
  · split at h <;> cases h
    exact .bool _
  split at h
  · split at h <;> cases h
    exact .int _
  split at h
  · split at h <;> cases h
    exact .float _
  split at h
  · split at h <;> cases h
    exact .null
  split at h
  · exact huntagged h
  · cases h
    exact .string text

variable {doc : Gathered} {fuel depth : Nat} {path : List Step} {b b' : Building}

/-- What is built with `fuel` steps binds no key twice. -/
structure BuildsDistinct (doc : Gathered) (fuel : Nat) : Prop where
  /-- A value. -/
  value {depth path known b v b'} (h : buildValue doc fuel depth path known b = .ok (v, b')) :
    Distinct v
  /-- The items of a sequence. -/
  items {depth path index b xs b'}
    (h : buildValue.sequenceItems doc fuel depth path index b = .ok (xs, b')) :
    ∀ x ∈ xs, Distinct x
  /-- The pairs of a mapping behind those read so far. -/
  entries {depth path mark acc b es b'}
    (h : buildValue.mappingEntries doc fuel depth path mark acc b = .ok (es, b'))
    (hacc : Distinct (.mapping acc)) : Distinct (.mapping es)

/-- A pair whose key is not bound yet is put behind the others. -/
lemma Distinct.concat {acc : Entries} {k : Value} (hacc : Distinct (.mapping acc))
    (hk : Distinct k) (hv : Distinct v) (hbinds : acc.binds k = false) :
    Distinct (.mapping (acc ++ [(k, v)])) := by
  cases hacc with
  | mapping hkeys h₁ h₂ =>
    refine .mapping (List.pairwise_append.mpr ⟨hkeys, List.pairwise_singleton _ _, ?_⟩) ?_ ?_
    · intro a ha e he
      obtain rfl := List.mem_singleton.mp he
      have := List.any_eq_false.mp hbinds a ha
      simpa using this
    · exact List.forall_mem_append.mpr ⟨h₁, List.forall_mem_singleton.mpr hk⟩
    · exact List.forall_mem_append.mpr ⟨h₂, List.forall_mem_singleton.mpr hv⟩

lemma distinct_nil : Distinct (.mapping []) := .mapping .nil (by simp) (by simp)

lemma value_succ (ih : BuildsDistinct doc fuel) {known : Bool}
    (h : buildValue doc (fuel + 1) depth path known b = .ok (v, b')) : Distinct v := by
  -- a tag of the application is taken off and put around what is built behind it
  have htagged {name : String} {f : Value × Building → Except ReadError (Value × Building)}
      (hf : ∀ w b, f (w, b) = .ok (.tagged name w, b))
      (h : buildValue doc fuel depth path true b >>= f = .ok (v, b')) : Distinct v := by
    obtain ⟨⟨w, b''⟩, hw, hreturn⟩ := Except.bind_eq_ok_iff.1 h
    rw [hf] at hreturn
    cases hreturn
    exact .tagged name (ih.value hw)
  rw [buildValue] at h
  split at h
  · cases h
  · simp only at h
    split at h
    · split at h
      · cases h
      · obtain ⟨⟨w, b''⟩, hw, hreturn⟩ := Except.bind_eq_ok_iff.1 h
        cases hreturn
        exact ih.value hw
    · split at h
      · exact htagged (fun _ _ => rfl) h
      · split at h
        · rename_i hscalar
          cases h
          exact distinct_of_scalarValue hscalar
        · cases h
    · split at h
      · exact htagged (fun _ _ => rfl) h
      · split at h
        · cases h
        · obtain ⟨⟨xs, b''⟩, hxs, hreturn⟩ := Except.bind_eq_ok_iff.1 h
          cases hreturn
          exact .sequence (ih.items hxs)
    · split at h
      · exact htagged (fun _ _ => rfl) h
      · split at h
        · cases h
        · obtain ⟨⟨es, b''⟩, hes, hreturn⟩ := Except.bind_eq_ok_iff.1 h
          cases hreturn
          exact ih.entries hes distinct_nil
    · cases h
    · cases h
    · cases h
      exact .null

lemma items_succ (ih : BuildsDistinct doc fuel) {index : Nat} {xs : List Value}
    (h : buildValue.sequenceItems doc (fuel + 1) depth path index b = .ok (xs, b')) :
    ∀ x ∈ xs, Distinct x := by
  rw [buildValue.sequenceItems] at h
  split at h
  · cases h
  · split at h
    · cases h
      simp
    · obtain ⟨⟨x, b₁⟩, hx, h⟩ := Except.bind_eq_ok_iff.1 h
      obtain ⟨⟨ys, b₂⟩, hys, hreturn⟩ := Except.bind_eq_ok_iff.1 h
      cases hreturn
      exact List.forall_mem_cons.mpr ⟨ih.value hx, ih.items hys⟩

lemma entries_succ (ih : BuildsDistinct doc fuel) {mark : Mark} {acc : Entries}
    (h : buildValue.mappingEntries doc (fuel + 1) depth path mark acc b = .ok (es, b'))
    (hacc : Distinct (.mapping acc)) : Distinct (.mapping es) := by
  rw [buildValue.mappingEntries] at h
  split at h
  · cases h
  · split at h
    · cases h
      exact hacc
    · obtain ⟨⟨k, b₁⟩, hk, h⟩ := Except.bind_eq_ok_iff.1 h
      simp only at h
      split at h
      · cases h
      · rename_i hbinds
        obtain ⟨⟨w, b₂⟩, hw, hes⟩ := Except.bind_eq_ok_iff.1 h
        exact ih.entries hes (hacc.concat (ih.value hk) (ih.value hw) (by simpa using hbinds))

/-- No step of building binds a key twice. -/
theorem buildsDistinct (doc : Gathered) (fuel : Nat) : BuildsDistinct doc fuel := by
  induction fuel with
  | zero =>
    constructor
    · intro _ _ _ _ _ _ h
      simp [buildValue] at h
    · intro _ _ _ _ _ _ h
      simp [buildValue.sequenceItems] at h
    · intro _ _ _ _ _ _ _ h
      simp [buildValue.mappingEntries] at h
  | succ fuel ih => exact ⟨value_succ ih, items_succ ih, entries_succ ih⟩

/-- A document that is read binds no key twice. -/
theorem distinct_of_read {text : List Char} (h : read text = .ok v) : Distinct v := by
  unfold read at h
  simp only at h
  split at h
  · cases h
  · obtain ⟨⟨w, b⟩, hw, h⟩ := Except.bind_eq_ok_iff.1 h
    simp only at h
    split at h
    · cases h
    · split at h
      · cases h
      · cases h
        exact (buildsDistinct _ _).value hw

/-! ## Fields -/

/-- Only a text equals a text. -/
lemma same_string_iff {k : Value} {s : String} : k.same (.string s) = true ↔ k = .string s := by
  cases k <;> simp [Value.same]

lemma Distinct.untagged (h : Distinct v) : Distinct v.untagged := by
  induction h with
  | tagged name _ ih => exact ih
  | null | bool | int | float | string => constructor
  | sequence h => exact .sequence h
  | mapping hkeys h₁ h₂ => exact .mapping hkeys h₁ h₂

lemma get?_eq_some_iff {key : String} {x : Value}
    (hkeys : es.Pairwise fun a b => a.1.same b.1 = false) :
    es.get? (.string key) = some x ↔ (.string key, x) ∈ es := by
  induction es with
  | nil => simp [Entries.get?]
  | cons e es ih =>
    obtain ⟨k, y⟩ := e
    rw [List.pairwise_cons] at hkeys
    by_cases hk : k = .string key
    · subst hk
      -- no pair behind this one has its key
      have hnot : (.string key, x) ∉ es := by
        intro hmem
        have := hkeys.1 _ hmem
        simp [Value.same] at this
      simp [Entries.get?, Value.same, hnot, eq_comm]
    · have hne : k.same (.string key) = false := by
        rw [← Bool.not_eq_true, same_string_iff]
        exact hk
      have hnext : Entries.get? ((k, y) :: es) (.string key) = Entries.get? es (.string key) := by
        rw [Entries.get?, List.find?_cons_of_neg (by simp [hne])]
        rfl
      have hne' : (Value.string key, x) ≠ (k, y) := fun h => hk (Prod.mk.inj h).1.symm
      rw [hnext, ih hkeys.2, List.mem_cons, or_iff_right hne']

/-- A field is one of the pairs of the mapping, under whatever tags that stands. -/
theorem Distinct.field?_eq_some_iff (h : Distinct v) {key : String} {x : Value} :
    v.field? key = some x ↔ ∃ es, v.untagged = .mapping es ∧ (.string key, x) ∈ es := by
  have huntagged := h.untagged
  unfold Value.field?
  split
  · rename_i es heq
    rw [heq] at huntagged
    cases huntagged with
    | mapping hkeys _ _ => simp [heq, get?_eq_some_iff hkeys]
  · rename_i hno
    constructor
    · intro hnone
      cases hnone
    · rintro ⟨es, heq, -⟩
      exact absurd heq (hno es)

end Sidecars.Yaml
