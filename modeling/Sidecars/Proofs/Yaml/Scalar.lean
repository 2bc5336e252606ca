import Mathlib.Algebra.Group.Int.Defs
import Sidecars.Proofs.Yaml.Style

/-!
# Numbers as text

An integer is written in decimal, and its decimal form means the integer and nothing else.

* `Scalar.meaning_toString` is the meaning of the text of an integer that fits in 64 bits;
* `Scalar.IsNumber.allowsPlain` says that the text of a number may be written plain.
-/

namespace Sidecars.Yaml.Scalar

variable {n : Nat} {s rest : List Char} {c : Char}

/-! ## Digits -/

lemma digit?_of_isDigit (h : c.isDigit = true) : digit? 10 c = some (c.toNat - '0'.toNat) := by
  have hdigit := Char.isDigit_iff_toNat.mp h
  have hzero : '0'.toNat = 0x30 := rfl
  have hnine : '9'.toNat = 0x39 := rfl
  rw [hzero, hnine] at hdigit
  simp only [digit?, hdigit, and_self, if_true, hzero]
  rw [if_pos (by omega)]

lemma digitsFrom?_of_isDigit (acc : Nat) (h : ∀ c ∈ s, c.isDigit = true) :
    digitsFrom? 10 acc s = some (Nat.ofDigitChars 10 s acc) := by
  induction s generalizing acc with
  | nil => rfl
  | cons c s ih =>
    rw [digitsFrom?, digit?_of_isDigit (h c (by simp)), Option.bind_some,
      ih _ fun d hd => h d (by simp [hd]), Nat.ofDigitChars_cons, Nat.mul_comm]

lemma isDigit_of_mem_toDigits (h : c ∈ Nat.toDigits 10 n) : c.isDigit = true :=
  Nat.isDigit_of_mem_toDigits (by decide) (by decide) h

lemma natural?_toDigits (n : Nat) : natural? 10 (Nat.toDigits 10 n) = some n := by
  rw [natural?, if_neg Nat.toDigits_ne_nil,
    digitsFrom?_of_isDigit 0 fun _ => isDigit_of_mem_toDigits, Nat.ofDigitChars_ten_toDigits]

/-- No digits stand behind a zero at the start of a number. -/
lemma eq_nil_of_toDigits (h : Nat.toDigits 10 n = '0' :: rest) : rest = [] := by
  induction n using Nat.strongRecOn generalizing rest with
  | ind n ih =>
    by_cases hn : n < 10
    · rw [Nat.toDigits_of_lt_base hn] at h
      exact (List.cons.inj h).2.symm
    · -- the digits without the last one are those of a positive number
      exfalso
      rw [Nat.toDigits_of_base_le (by decide) (by omega)] at h
      obtain ⟨c, more, hmore⟩ := List.exists_cons_of_ne_nil
        (Nat.toDigits_ne_nil (n := n / 10) (b := 10))
      rw [hmore, List.cons_append, List.cons.injEq] at h
      obtain rfl := h.1
      have hzero : Nat.toDigits 10 (n / 10) = Nat.toDigits 10 0 := by
        rw [hmore, ih (n / 10) (by omega) hmore, Nat.toDigits_zero]
      have := congrArg (fun s => Nat.ofDigitChars 10 s 0) hzero
      simp only [Nat.ofDigitChars_ten_toDigits] at this
      omega

lemma isPaddedDigits_toDigits (n : Nat) : isPaddedDigits (Nat.toDigits 10 n) = false := by
  obtain ⟨c, rest, hdigits⟩ := List.exists_cons_of_ne_nil (Nat.toDigits_ne_nil (n := n) (b := 10))
  have hc : c.isDigit = true := isDigit_of_mem_toDigits (n := n) (by simp [hdigits])
  have hsign : isSign c = false := by
    simp only [isSign, Bool.or_eq_false_iff, decide_eq_false_iff_not]
    constructor <;> rintro rfl <;> exact absurd hc (by decide)
  rw [hdigits, isPaddedDigits]
  simp only [hsign, Bool.false_eq_true, if_false]
  split
  · rename_i d more heq
    obtain ⟨rfl, rfl⟩ := List.cons.inj heq
    exact absurd (eq_nil_of_toDigits hdigits) (by simp)
  · rfl

lemma magnitude?_toDigits (n : Nat) : magnitude? (Nat.toDigits 10 n) = some n := by
  have hletter (d : Char) (rest : List Char) : Nat.toDigits 10 n ≠ '0' :: d :: rest := fun h =>
    absurd (eq_nil_of_toDigits h) (by simp)
  unfold magnitude?
  split
  · exact absurd (by assumption) (hletter _ _)
  · exact absurd (by assumption) (hletter _ _)
  · exact absurd (by assumption) (hletter _ _)
  · rw [isPaddedDigits_toDigits, if_neg (by simp), natural?_toDigits]

/-! ## Integers -/

/-- The text of an integer: a hyphen in front of the digits if it is negative. -/
lemma toList_toString (n : Int) :
    (toString n).toList =
      if 0 ≤ n then Nat.toDigits 10 n.toNat else '-' :: Nat.toDigits 10 (-n).toNat := by
  rw [Int.toString_eq_repr, Int.repr_eq_if]
  split <;> simp

lemma integer?_toString {n : Int} (hlow : -2 ^ 63 ≤ n) (hhigh : n < 2 ^ 64) :
    integer? (toString n).toList = some (.int n) := by
  rw [toList_toString]
  split
  · rename_i hn
    obtain ⟨c, rest, hdigits⟩ := List.exists_cons_of_ne_nil
      (Nat.toDigits_ne_nil (n := n.toNat) (b := 10))
    have hc : c.isDigit = true := isDigit_of_mem_toDigits (n := n.toNat) (by simp [hdigits])
    have hminus : c ≠ '-' := by
      rintro rfl
      exact absurd hc (by decide)
    have hplus : c ≠ '+' := by
      rintro rfl
      exact absurd hc (by decide)
    have hmagnitude := magnitude?_toDigits n.toNat
    rw [hdigits] at hmagnitude ⊢
    have hbound : n.toNat < Nat.pow 2 64 := by
      rw [Nat.pow_eq]
      omega
    unfold integer?
    split
    · simp_all
    · split
      · simp_all
      · simp only [hmagnitude, Option.bind_some, if_pos hbound, Int.toNat_of_nonneg hn]
  · have hbound : (-n).toNat ≤ Nat.pow 2 63 := by
      rw [Nat.pow_eq]
      omega
    rw [integer?, magnitude?_toDigits, Option.bind_some, if_pos hbound]
    congr
    omega

/-- A text of digits, with or without a hyphen in front of them. -/
def IsNumeral (s : List Char) : Prop :=
  ∃ c rest, (s = c :: rest ∨ s = '-' :: c :: rest) ∧ c.isDigit = true ∧
    ∀ d ∈ rest, d.isDigit = true

lemma isNumeral_toString (n : Int) : IsNumeral (toString n).toList := by
  rw [toList_toString]
  split
  · obtain ⟨c, rest, hdigits⟩ := List.exists_cons_of_ne_nil
      (Nat.toDigits_ne_nil (n := n.toNat) (b := 10))
    have hall (d : Char) (hd : d ∈ c :: rest) : d.isDigit = true :=
      isDigit_of_mem_toDigits (n := n.toNat) (hdigits ▸ hd)
    exact ⟨c, rest, .inl hdigits, hall c (by simp), fun d hd => hall d (by simp [hd])⟩
  · obtain ⟨c, rest, hdigits⟩ := List.exists_cons_of_ne_nil
      (Nat.toDigits_ne_nil (n := (-n).toNat) (b := 10))
    have hall (d : Char) (hd : d ∈ c :: rest) : d.isDigit = true :=
      isDigit_of_mem_toDigits (n := (-n).toNat) (hdigits ▸ hd)
    exact ⟨c, rest, .inr (by rw [hdigits]), hall c (by simp), fun d hd => hall d (by simp [hd])⟩

/-- A numeral is none of the words with a meaning of their own. -/
lemma IsNumeral.ne_word {s w : String} (h : IsNumeral s.toList)
    (hw : w.toList.head?.all fun c => !(c.isDigit || c = '-')) : s ≠ w := by
  rintro rfl
  obtain ⟨c, rest, hs | hs, hc, -⟩ := h
  · simp [hs, hc] at hw
  · simp [hs] at hw

lemma meaning_of_isNumeral {s : String} (h : IsNumeral s.toList) {meant : Meaning}
    (hmeant : integer? s.toList = some meant) : meaning s = meant := by
  have hempty : s ≠ "" := by
    rintro rfl
    obtain ⟨c, rest, hs | hs, -⟩ := h <;> simp at hs
  have hnull : isNullWord s = false := by
    simp [isNullWord, h.ne_word]
  have hbool : bool? s = none := by
    simp [bool?, h.ne_word]
  rw [meaning, if_neg (by simp [hempty, hnull]), hbool]
  simp [hmeant]

/-- The text of an integer means the integer. -/
theorem meaning_toString {n : Int} (hlow : -2 ^ 63 ≤ n) (hhigh : n < 2 ^ 64) :
    meaning (toString n) = .int n :=
  meaning_of_isNumeral (isNumeral_toString n) (integer?_toString hlow hhigh)

/-! ## Plain numbers -/

/-- Whether a character occurs in numbers, or in the words for infinity and for not a number. -/
def IsNumberChar (c : Char) : Prop :=
  c.isDigit = true ∨ c ∈ ['-', '.', 'e', 'i', 'n', 'f', 'a']

/-- A text of such characters that starts with a digit or with a single point, with or without a
hyphen in front. -/
def IsNumber (s : List Char) : Prop :=
  ∃ c rest, (s = c :: rest ∨ s = '-' :: c :: rest) ∧
    (c.isDigit = true ∨ c = '.' ∧ rest.head? ≠ some '.') ∧ ∀ d ∈ rest, IsNumberChar d

lemma isNumberChar_of_start (h : c.isDigit = true ∨ c = '.' ∧ rest.head? ≠ some '.') :
    IsNumberChar c := by
  rcases h with h | ⟨rfl, -⟩
  · exact .inl h
  · exact .inr (by simp)

lemma ne_hyphen_of_start (h : c.isDigit = true ∨ c = '.' ∧ rest.head? ≠ some '.') : c ≠ '-' := by
  rintro rfl
  rcases h with h | ⟨h, -⟩
  · exact absurd h (by decide)
  · exact absurd h (by decide)

lemma IsNumeral.isNumber (h : IsNumeral s) : IsNumber s := by
  obtain ⟨c, rest, hs, hc, hrest⟩ := h
  exact ⟨c, rest, hs, .inl hc, fun d hd => .inl (hrest d hd)⟩

lemma IsNumber.ne_nil (h : IsNumber s) : s ≠ [] := by
  obtain ⟨c, rest, rfl | rfl, -⟩ := h <;> simp

lemma IsNumber.of_mem (h : IsNumber s) (hc : c ∈ s) : IsNumberChar c := by
  obtain ⟨d, rest, hs, hd, hrest⟩ := h
  have hstart := isNumberChar_of_start hd
  rcases hs with rfl | rfl
  · rcases List.mem_cons.mp hc with rfl | hc
    · exact hstart
    · exact hrest c hc
  · rcases List.mem_cons.mp hc with rfl | hc
    · exact .inr (by simp)
    · rcases List.mem_cons.mp hc with rfl | hc
      · exact hstart
      · exact hrest c hc

/-- The characters of numbers are shown as they are and mean nothing else. -/
lemma plain_of_isNumberChar (h : IsNumberChar c) :
    isPrintable c = true ∧ isWhite c = false ∧ Traits.isOpeningIndicator c = false ∧
      c ∉ [':', '#', '?', ' ', '\u0000'] := by
  rcases h with h | h
  · have hall : ∀ k < 58, 48 ≤ k → isPrintable (Char.ofNat k) = true ∧
        isWhite (Char.ofNat k) = false ∧ Traits.isOpeningIndicator (Char.ofNat k) = false ∧
        Char.ofNat k ∉ [':', '#', '?', ' ', '\u0000'] := by decide
    obtain ⟨hlow, hhigh⟩ := Char.isDigit_iff_toNat.mp h
    have hc := hall c.toNat (Nat.lt_succ_of_le hhigh) hlow
    rwa [Char.ofNat_toNat] at hc
  · simp only [List.mem_cons, List.not_mem_nil, or_false] at h
    rcases h with rfl | rfl | rfl | rfl | rfl | rfl | rfl <;> decide

lemma IsNumber.opens (h : IsNumber s) : Traits.opens s = false := by
  obtain ⟨d, rest, hs, hd, hrest⟩ := h
  obtain ⟨-, hwhite, hopening, hmem⟩ := plain_of_isNumberChar (isNumberChar_of_start hd)
  simp only [List.mem_cons, List.not_mem_nil, or_false, not_or] at hmem
  rcases hs with rfl | rfl
  · have hminus := ne_hyphen_of_start hd
    simp [Traits.opens, hopening, hmem, hminus]
  · have hopening' : Traits.isOpeningIndicator '-' = false := by decide
    simp [Traits.opens, hopening', Traits.whiteFollows, hwhite, hmem]

lemma IsNumber.undivided (h : IsNumber s) :
    s.take 3 ≠ ['-', '-', '-'] ∧ s.take 3 ≠ ['.', '.', '.'] := by
  obtain ⟨d, rest, hs, hd, hrest⟩ := h
  have hminus := ne_hyphen_of_start hd
  rcases hs with rfl | rfl
  · refine ⟨by simp [hminus], ?_⟩
    rcases hd with hd | ⟨rfl, hpoint⟩
    · have hdot : d ≠ '.' := by
        rintro rfl
        exact absurd hd (by decide)
      simp [hdot]
    · -- no second point follows the first
      cases rest with
      | nil => simp
      | cons c rest =>
        have hc : c ≠ '.' := by simpa using hpoint
        simp [hc]
  · simp [hminus]

/-- A number may be written plain. -/
lemma IsNumber.allowsPlain (h : IsNumber s) : (Traits.of s).allowsPlain = true := by
  have hprint : ∀ d ∈ s, isPrintable d = true := fun d hd =>
    (plain_of_isNumberChar (h.of_mem hd)).1
  have hmem : ∀ d ∈ s, d ≠ ':' ∧ d ≠ '#' ∧ d ≠ ' ' := fun d hd => by
    have := (plain_of_isNumberChar (h.of_mem hd)).2.2.2
    simp only [List.mem_cons, List.not_mem_nil, or_false, not_or] at this
    exact ⟨this.1, this.2.1, this.2.2.2.1⟩
  have hspace : ∀ d ∈ s, Traits.isSpace d = false := fun d hd => by
    simp [Traits.isSpace, (hmem d hd).2.2]
  have hbreak : ∀ d ∈ s, isBreak d = false := fun d hd => by
    have := (plain_of_isNumberChar (h.of_mem hd)).2.1
    simp only [isWhite, Bool.or_eq_false_iff] at this
    exact this.2
  have hhead (p : Char → Bool) (hp : ∀ d ∈ s, p d = false) : s.head?.any p = false := by
    rw [Option.any_eq_false]
    exact fun d hd => by simp [hp d (List.mem_of_head? hd)]
  have hlast (p : Char → Bool) (hp : ∀ d ∈ s, p d = false) : s.getLast?.any p = false := by
    rw [Option.any_eq_false]
    exact fun d hd => by simp [hp d (List.mem_of_getLast? hd)]
  have hspecial : (s.any fun c => !isPrintable c) = false := by simpa using hprint
  have hbreaks : s.any isBreak = false := by simpa using hbreak
  have hinterrupts (before : Char) : Traits.interrupts before s.tail = false :=
    Traits.interrupts_of_forall before fun d hd =>
      ⟨(hmem d (List.mem_of_mem_tail hd)).1, (hmem d (List.mem_of_mem_tail hd)).2.1⟩
  simp only [Traits.allowsPlain, Traits.of, hhead _ hspace, hhead _ hbreak, hlast _ hspace,
    hlast _ hbreak, Traits.adjacent_of_forall _ hbreak, Traits.adjacent_of_forall _ hspace,
    hspecial, hbreaks, h.opens, h.undivided.1, h.undivided.2]
  cases s with
  | nil => rfl
  | cons c rest => simpa using hinterrupts c

end Sidecars.Yaml.Scalar
