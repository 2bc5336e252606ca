import Mathlib.Data.List.Basic

/-!
# Lines

A text is a list of lines, each with a line feed behind it, and a last one without.  `ended` puts
the line feeds there, and `splitOn_eq_concat_iff` says that splitting a text finds these lines
and no others.
-/

namespace Sidecars.Text

variable {s last : List Char} {lines : List (List Char)}

/-- Lines with a line feed behind each. -/
def ended (lines : List (List Char)) : List Char := lines.flatMap (· ++ ['\n'])

@[simp] lemma ended_nil : ended [] = [] := rfl

@[simp] lemma ended_cons (line : List Char) (lines : List (List Char)) :
    ended (line :: lines) = line ++ '\n' :: ended lines := by
  simp [ended]

@[simp] lemma ended_append (xs ys : List (List Char)) :
    ended (xs ++ ys) = ended xs ++ ended ys :=
  List.flatMap_append

/-- Every text is made of lines. -/
lemma exists_lines (s : List Char) :
    ∃ lines last, s = ended lines ++ last ∧ ∀ l ∈ lines ++ [last], '\n' ∉ l := by
  induction s with
  | nil => exact ⟨[], [], rfl, by simp⟩
  | cons c s ih =>
    obtain ⟨lines, last, rfl, hlines⟩ := ih
    by_cases hc : c = '\n'
    · -- a line feed ends an empty line before the others
      subst hc
      exact ⟨[] :: lines, last, by simp, by simpa using hlines⟩
    · -- any other character belongs to the first of the lines
      have hc' : '\n' ≠ c := fun h => hc h.symm
      cases lines with
      | nil => exact ⟨[], c :: last, by simp, by simpa [hc'] using hlines⟩
      | cons l lines => exact ⟨(c :: l) :: lines, last, by simp, by simpa [hc'] using hlines⟩

/-- Lines are found where they were put. -/
lemma splitOn_ended_append (h : ∀ l ∈ lines ++ [last], '\n' ∉ l) :
    (ended lines ++ last).splitOn '\n' = lines ++ [last] := by
  induction lines with
  | nil => exact List.splitOn_eq_singleton (h last (by simp))
  | cons l lines ih =>
    rw [ended_cons, List.append_assoc, List.cons_append,
      List.splitOn_append_cons_self_of_not_mem (h l (by simp)),
      ih fun l' hl' => h l' (List.mem_cons_of_mem l hl')]
    rfl

/-- The lines of a text are the ones it is made of. -/
theorem splitOn_eq_concat_iff :
    s.splitOn '\n' = lines ++ [last] ↔
      s = ended lines ++ last ∧ ∀ l ∈ lines ++ [last], '\n' ∉ l := by
  constructor
  · intro h
    obtain ⟨lines', last', rfl, hlines'⟩ := exists_lines s
    rw [splitOn_ended_append hlines'] at h
    obtain ⟨rfl, hlast⟩ := List.append_inj' h rfl
    obtain rfl : last' = last := by simpa using hlast
    exact ⟨rfl, hlines'⟩
  · rintro ⟨rfl, h⟩
    exact splitOn_ended_append h

/-- A text is made of lines alone exactly if it is empty or ends in a line feed. -/
lemma exists_ended_iff :
    (∃ lines, s = ended lines ∧ ∀ l ∈ lines, '\n' ∉ l) ↔ s = [] ∨ s.getLast? = some '\n' := by
  constructor
  · rintro ⟨lines, rfl, -⟩
    rcases List.eq_nil_or_concat lines with rfl | ⟨lines, l, rfl⟩
    · exact .inl rfl
    · exact .inr (by simp)
  · rintro (rfl | hs)
    · exact ⟨[], rfl, by simp⟩
    · obtain ⟨lines, last, rfl, hlines⟩ := exists_lines s
      -- what stands behind the last line feed cannot end in another one
      have hlast : last = [] := by
        by_contra hne
        rw [List.getLast?_append_of_ne_nil _ hne] at hs
        exact hlines last (by simp) (List.mem_of_getLast? hs)
      subst hlast
      exact ⟨lines, by simp, fun l hl => hlines l (by simp [hl])⟩

end Sidecars.Text
