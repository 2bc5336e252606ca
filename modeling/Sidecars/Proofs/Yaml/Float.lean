import Sidecars.Yaml.Document
import Sidecars.Yaml.Written
import Sidecars.Proofs.Yaml.Scalar

/-!
# Floating-point numbers as text

The text of a floating-point number has a point or an exponent, so it is never taken for an integer,
and like every number it may be written plain.

* `isFractional_floatText` says how such a text looks;
* `exists_plainValue` says that it means something wherever it is read.
-/

namespace Sidecars.Yaml

open Scalar

variable {s digits more : List Char}

/-! ## The shape of the text -/

/-- The text of a number with a point or an exponent. -/
structure IsFractional (s : List Char) : Prop where
  /-- It is the text of a number. -/
  number : IsNumber s
  /-- It has a point or an exponent. -/
  mark : ∃ c ∈ s, c = '.' ∨ c = 'e'

/-- Digits with something behind them that has a point or an exponent. -/
structure Split (digits more : List Char) : Prop where
  /-- There are digits. -/
  ne_nil : digits ≠ []
  /-- They are digits. -/
  isDigit : ∀ c ∈ digits, c.isDigit = true
  /-- The characters behind them are those of numbers. -/
  isNumberChar : ∀ c ∈ more, IsNumberChar c
  /-- One of them is a point or opens an exponent. -/
  mark : ∃ c ∈ more, c = '.' ∨ c = 'e'

lemma Split.isFractional (h : Split digits more) (negative : Bool) :
    IsFractional ((if negative then ['-'] else []) ++ (digits ++ more)) where
  number := by
    obtain ⟨c, rest, rfl⟩ := List.exists_cons_of_ne_nil h.ne_nil
    refine ⟨c, rest ++ more, ?_, .inl (h.isDigit c (by simp)), fun d hd => ?_⟩
    · cases negative <;> simp
    · rcases List.mem_append.1 hd with hd | hd
      · exact .inl (h.isDigit d (by simp [hd]))
      · exact h.isNumberChar d hd
  mark := by
    obtain ⟨c, hc, hmark⟩ := h.mark
    exact ⟨c, by simp [hc], hmark⟩

/-- A point may stand behind digits, with characters of numbers behind it. -/
lemma Split.point (hne : digits ≠ []) (hdigit : ∀ c ∈ digits, c.isDigit = true)
    (hmore : ∀ c ∈ more, IsNumberChar c) : Split digits ('.' :: more) where
  ne_nil := hne
  isDigit := hdigit
  isNumberChar := by
    intro c hc
    rcases List.mem_cons.1 hc with rfl | hc
    · exact .inr (by simp)
    · exact hmore c hc
  mark := ⟨'.', by simp⟩

/-- The point may also stand among digits. -/
lemma Split.point_take {k : Nat} (hk : 0 < k) (hne : digits ≠ [])
    (hdigit : ∀ c ∈ digits, c.isDigit = true) (hmore : ∀ c ∈ more, IsNumberChar c) :
    Split (digits.take k) ('.' :: more) := by
  refine .point ?_ (fun c hc => hdigit c (List.mem_of_mem_take hc)) hmore
  rw [Ne, List.take_eq_nil_iff, not_or]
  exact ⟨by omega, hne⟩

lemma isNumberChar_of_mem_exponent {n : Int} {c : Char} (h : c ∈ 'e' :: (toString n).toList) :
    IsNumberChar c := by
  rcases List.mem_cons.1 h with rfl | h
  · exact .inr (by simp)
  · exact (isNumeral_toString n).isNumber.of_mem h

/-- A finite number has digits in front of its point or its exponent. -/
lemma exists_split (x : Binary64) : ∃ digits more, Split digits more ∧
    finiteText x = (if x.isNegative then ['-'] else []) ++ (digits ++ more) := by
  unfold finiteText
  simp only
  generalize (if x.isNegative then ['-'] else [] : List Char) = sign
  by_cases hzero : x.isZero = true
  · rw [if_pos hzero]
    exact ⟨['0'], ['.', '0'], .point (by simp) (by simp) (by simp [IsNumberChar]), rfl⟩
  · rw [if_neg hzero]
    obtain ⟨n, power⟩ := Shortest.decimal x
    have hdigit : ∀ c ∈ (Nat.repr n).toList, c.isDigit = true := by
      intro c hc
      rw [Nat.toList_repr] at hc
      exact isDigit_of_mem_toDigits hc
    have hne : (Nat.repr n).toList ≠ [] := by
      rw [Nat.toList_repr]
      exact Nat.toDigits_ne_nil
    have hzeros {k : Nat} : ∀ c ∈ List.replicate k '0', c.isDigit = true := by
      intro c hc
      rw [List.eq_of_mem_replicate hc]
      decide
    generalize (Nat.repr n).toList = text at hdigit hne ⊢
    split_ifs with hwhole hinside hbehind hshort
    · -- zeros behind the digits
      refine ⟨text ++ List.replicate power.toNat '0', ['.', '0'],
        .point (by simp [hne]) ?_ (by simp [IsNumberChar]), by simp⟩
      intro c hc
      rcases List.mem_append.1 hc with hc | hc
      · exact hdigit c hc
      · exact hzeros c hc
    · -- a point among the digits
      exact ⟨_, _, .point_take (by omega) hne hdigit fun c hc =>
        .inl (hdigit c (List.mem_of_mem_drop hc)), rfl⟩
    · -- zeros in front of the digits
      refine ⟨['0'], _, .point (by simp) (by simp) fun c hc => ?_, rfl⟩
      rcases List.mem_append.1 hc with hc | hc
      · exact .inl (hzeros c hc)
      · exact .inl (hdigit c hc)
    · -- one digit and an exponent
      exact ⟨text, _, ⟨hne, hdigit, fun c hc => isNumberChar_of_mem_exponent hc, ⟨'e', by simp⟩⟩,
        rfl⟩
    · -- several digits and an exponent
      refine ⟨text.take 1,
        '.' :: (text.drop 1 ++ 'e' :: (toString (text.length + power - 1)).toList),
        .point_take Nat.one_pos hne hdigit fun c hc => ?_, by simp⟩
      rcases List.mem_append.1 hc with hc | hc
      · exact .inl (hdigit c (List.mem_of_mem_drop hc))
      · exact isNumberChar_of_mem_exponent hc

/-- The text of a floating-point number has a point or an exponent. -/
theorem isFractional_floatText (x : Binary64) : IsFractional (floatText x) := by
  have hword {word : List Char} (h : word = ['i', 'n', 'f'] ∨ word = ['n', 'a', 'n'])
      (negative : Bool) : IsFractional ((if negative then ['-'] else []) ++ '.' :: word) := by
    refine ⟨⟨'.', word, ?_, .inr ⟨rfl, ?_⟩, ?_⟩, ⟨'.', by simp⟩⟩
    · cases negative <;> simp
    · rcases h with rfl | rfl <;> decide
    · rcases h with rfl | rfl <;> simp [IsNumberChar]
  unfold floatText
  split_ifs with hnan hinfinite
  · exact hword (.inr rfl) false
  · have hinf := hword (.inl rfl) x.isNegative
    simpa [*] using hinf
  · have hinf := hword (.inl rfl) x.isNegative
    simpa [*] using hinf
  · obtain ⟨digits, more, hsplit, htext⟩ := exists_split x
    rw [htext]
    exact hsplit.isFractional x.isNegative

/-! ## No integer -/

lemma digitsFrom?_eq_none {c : Char} (acc : Nat) (hc : c ∈ s) (hdigit : digit? 10 c = none) :
    digitsFrom? 10 acc s = none := by
  induction s generalizing acc with
  | nil => cases hc
  | cons d s ih =>
    rw [digitsFrom?]
    rcases List.mem_cons.1 hc with rfl | hc
    · rw [hdigit, Option.bind_none]
    · cases digit? 10 d with
      | none => rfl
      | some n => exact ih _ hc

/-- The letters behind which a number is not decimal do not occur. -/
lemma magnitude?_eq_none (h : ∀ c ∈ s, IsNumberChar c) (hmark : ∃ c ∈ s, c = '.' ∨ c = 'e') :
    magnitude? s = none := by
  unfold magnitude?
  split
  · exact absurd (h 'x' (by simp)) (by simp [IsNumberChar])
  · exact absurd (h 'o' (by simp)) (by simp [IsNumberChar])
  · exact absurd (h 'b' (by simp)) (by simp [IsNumberChar])
  · split
    · rfl
    · obtain ⟨c, hc, hmark⟩ := hmark
      have hdigit : digit? 10 c = none := by rcases hmark with rfl | rfl <;> decide
      rw [natural?, if_neg (List.ne_nil_of_mem hc), digitsFrom?_eq_none 0 hc hdigit]

/-- A number with a point or an exponent is no integer. -/
lemma IsFractional.integer? (h : IsFractional s) : integer? s = none := by
  have hchars : ∀ c ∈ s, IsNumberChar c := fun c hc => h.number.of_mem hc
  obtain ⟨mark, hmem, hmark⟩ := h.mark
  unfold Scalar.integer?
  split
  · next rest =>
    have hne : mark ≠ '-' := by rcases hmark with rfl | rfl <;> decide
    have hrest : mark ∈ rest := (List.mem_cons.1 hmem).resolve_left hne
    rw [magnitude?_eq_none (fun c hc => hchars c (by simp [hc])) ⟨mark, hrest, hmark⟩]
    rfl
  · split
    · exact absurd (hchars '+' (by simp)) (by simp [IsNumberChar])
    · simp only
      rw [magnitude?_eq_none hchars ⟨mark, hmem, hmark⟩]
      rfl

/-- What is no integer is not an integer that is too large either. -/
lemma meaning_ne_wide {s : String} (h : Scalar.integer? s.toList = none) (n : Int) :
    meaning s ≠ .wide n := by
  unfold meaning
  rw [h]
  split_ifs
  · nofun
  · split
    · nofun
    · nofun
  · split
    · nofun
    · simp only
      split <;> nofun

/-- The text of a floating-point number is read as some value. -/
theorem exists_plainValue (x : Binary64) :
    ∃ v, plainValue (String.ofList (floatText x)) = .ok v := by
  have hinteger : Scalar.integer? (String.ofList (floatText x)).toList = none := by
    rw [String.toList_ofList]
    exact (isFractional_floatText x).integer?
  unfold plainValue
  cases hmeaning : meaning (String.ofList (floatText x)) with
  | wide n => exact absurd hmeaning (meaning_ne_wide hinteger n)
  | null => exact ⟨_, rfl⟩
  | bool b => exact ⟨_, rfl⟩
  | int n => exact ⟨_, rfl⟩
  | float y => exact ⟨_, rfl⟩
  | text => exact ⟨_, rfl⟩

end Sidecars.Yaml
