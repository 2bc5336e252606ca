import Sidecars.Yaml.Quoting
import Sidecars.Yaml.Token.Stream
import Mathlib.Data.List.Basic

/-!
# Places in a written text

Written text breaks its lines with single characters, so the place behind it can be computed from
the characters alone.

* `Mark.after m s` is the place behind the text `s` that starts at `m`;
* `opensToken` says that a text starts with a token, or is at its end;
* `toNextToken_of_opens`, `toNextToken_spaces` and `toNextToken_line` are the three gaps between
  tokens: none, blanks on the line, and the end of the line with the margin of the next one.
-/

namespace Sidecars.Yaml

/-! ## The place behind a text -/

namespace Mark

/-- The place behind a text in which every line break is a single character. -/
def after (m : Mark) : List Char → Mark
  | [] => m
  | c :: rest => (if isBreak c then m.newLine 1 else m.next).after rest

variable (m : Mark) {c : Char} {s t : List Char}

@[simp] lemma after_nil : m.after [] = m := rfl

lemma after_cons_break (h : isBreak c = true) : m.after (c :: s) = (m.newLine 1).after s := by
  simp [after, h]

lemma after_cons_of_not_break (h : isBreak c = false) : m.after (c :: s) = m.next.after s := by
  simp [after, h]

lemma after_append (m : Mark) (s t : List Char) : m.after (s ++ t) = (m.after s).after t := by
  induction s generalizing m with
  | nil => rfl
  | cons c s ih => simp only [List.cons_append, after, ih]

lemma after_of_no_break (h : ∀ c ∈ s, isBreak c = false) : m.after s = m.advance s.length := by
  induction s generalizing m with
  | nil => rfl
  | cons c s ih =>
    rw [after_cons_of_not_break m (h c (by simp)), ih m.next fun d hd => h d (by simp [hd])]
    simp only [advance, next, List.length_cons, Mark.mk.injEq, true_and]
    omega

@[simp] lemma after_spaces (n : Nat) : m.after (spaces n) = m.advance n := by
  have h := after_of_no_break m (s := spaces n) fun c hc => by
    rw [List.eq_of_mem_replicate hc]
    decide
  simpa [spaces] using h

lemma line_le_after (m : Mark) (s : List Char) : m.line ≤ (m.after s).line := by
  induction s generalizing m with
  | nil => exact Nat.le_refl _
  | cons c s ih =>
    rw [after]
    refine Nat.le_trans ?_ (ih _)
    split <;> simp [newLine, next]

/-- A line break leads to a further line. -/
lemma line_lt_after {b : Char} (hb : isBreak b = true) (s t : List Char) :
    m.line < (m.after (s ++ b :: t)).line := by
  rw [after_append, after_cons_break _ hb]
  have h : (m.after s).line + 1 ≤ (((m.after s).newLine 1).after t).line :=
    line_le_after ((m.after s).newLine 1) t
  have h' := line_le_after m s
  omega

/-- Behind a line break and a margin, the margin is the column. -/
lemma column_after_margin {b : Char} (hb : isBreak b = true) (s : List Char) (n : Nat) :
    (m.after (s ++ b :: spaces n)).column = n := by
  rw [after_append, after_cons_break _ hb, after_spaces]
  simp [newLine, advance]

/-- Whether a place is the same as another or further on in the text. -/
def NotAfter (m m' : Mark) : Prop := m.line ≤ m'.line ∧ m.index ≤ m'.index

lemma NotAfter.refl (m : Mark) : m.NotAfter m := ⟨Nat.le_refl _, Nat.le_refl _⟩

lemma NotAfter.trans {m₁ m₂ m₃ : Mark} (h : m₁.NotAfter m₂) (h' : m₂.NotAfter m₃) :
    m₁.NotAfter m₃ := ⟨Nat.le_trans h.1 h'.1, Nat.le_trans h.2 h'.2⟩

lemma notAfter_advance (n : Nat) : m.NotAfter (m.advance n) := ⟨Nat.le_refl _, Nat.le_add_right _ _⟩

lemma notAfter_newLine (n : Nat) : m.NotAfter (m.newLine n) :=
  ⟨Nat.le_succ _, Nat.le_add_right _ _⟩

end Mark

@[simp] lemma length_spaces (n : Nat) : (spaces n).length = n := List.length_replicate

lemma spaces_succ (n : Nat) : spaces (n + 1) = ' ' :: spaces n := List.replicate_succ

lemma isBreak_lineFeed : isBreak '\n' = true := by decide

/-! ## Gaps between tokens -/

/-- Whether a text is at its end or starts with a token. -/
def opensToken : List Char → Bool
  | [] => true
  | c :: _ => !isWhite c && c ≠ '#' && c ≠ byteOrderMark

namespace Scan

variable {rest : List Char} {allowed : Bool} {m : Mark} {fuel n : Nat}

lemma opensToken_cons {c : Char} {rest : List Char} (h : opensToken (c :: rest) = true) :
    c ≠ ' ' ∧ c ≠ '\t' ∧ isBreak c = false ∧ c ≠ '#' ∧ c ≠ byteOrderMark := by
  simp only [opensToken, isWhite, isBlank, Bool.and_eq_true, Bool.not_eq_true',
    Bool.or_eq_false_iff, decide_eq_true_eq, decide_eq_false_iff_not] at h
  exact ⟨h.1.1.1.1, h.1.1.1.2, h.1.1.2, h.1.2, h.2⟩

/-- The blanks that lead to a token are all that is skipped. -/
lemma toNextToken_eq {inFlow : Bool} {c : Cursor} (h : opensToken rest = true)
    (hmark : c.rest.head? ≠ some byteOrderMark)
    (hskip : c.skipWhile (fun x => x = ' ' || (x = '\t' && (inFlow || !allowed))) = ⟨rest, m⟩) :
    toNextToken inFlow (fuel + 1) allowed c = (allowed, ⟨rest, m⟩) := by
  have hbom : ¬ (c.mark.column = 0 ∧ c.rest.head? = some byteOrderMark) := fun hc => hmark hc.2
  rw [toNextToken, if_neg hbom]
  simp only [hskip]
  cases rest with
  | nil => simp
  | cons d rest =>
    obtain ⟨-, -, hbreak, hhash, -⟩ := opensToken_cons h
    simp [hbreak, hhash]

lemma head?_ne_byteOrderMark (h : opensToken rest = true) (n : Nat) :
    (spaces n ++ rest).head? ≠ some byteOrderMark := by
  cases n with
  | zero =>
    cases rest with
    | nil => simp [spaces]
    | cons c rest => simp [spaces, (opensToken_cons h).2.2.2.2]
  | succ n => simp [spaces_succ, byteOrderMark]

lemma skipWhile_spaces {p : Char → Bool} (hp : p ' ' = true)
    (h : ∀ c ∈ rest.head?, p c = false) :
    (Cursor.mk (spaces n ++ rest) m).skipWhile p = ⟨rest, m.after (spaces n)⟩ := by
  have hstop : rest.takeWhile p = [] ∧ rest.dropWhile p = rest := by
    cases rest with
    | nil => exact ⟨rfl, rfl⟩
    | cons c rest => simp [h c (by simp)]
  have hall : ∀ c ∈ spaces n, p c = true := fun c hc => by
    rw [List.eq_of_mem_replicate hc]
    exact hp
  simp [Cursor.skipWhile, List.takeWhile_append_of_pos hall, List.dropWhile_append_of_pos hall,
    hstop]

/-- Blanks in front of a token are skipped. -/
lemma toNextToken_spaces (inFlow : Bool) (h : opensToken rest = true) :
    toNextToken inFlow (fuel + 1) allowed ⟨spaces n ++ rest, m⟩ =
      (allowed, ⟨rest, m.after (spaces n)⟩) := by
  refine toNextToken_eq h (head?_ne_byteOrderMark h n) ?_
  refine skipWhile_spaces (by simp) fun c hc => ?_
  cases rest with
  | nil => simp at hc
  | cons d rest =>
    obtain rfl : d = c := by simpa using hc
    obtain ⟨hspace, htab, -⟩ := opensToken_cons h
    simp [hspace, htab]

/-- In front of a token there is no gap. -/
lemma toNextToken_of_opens (inFlow : Bool) (h : opensToken rest = true) :
    toNextToken inFlow (fuel + 1) allowed ⟨rest, m⟩ = (allowed, ⟨rest, m⟩) :=
  toNextToken_spaces (n := 0) inFlow h

/-- The end of a line is skipped with the margin of the next line, where a key may begin. -/
lemma toNextToken_line (h : opensToken rest = true) :
    toNextToken false (fuel + 2) allowed ⟨'\n' :: (spaces n ++ rest), m⟩ =
      (true, ⟨rest, m.after ('\n' :: spaces n)⟩) := by
  have hnext : toNextToken false (fuel + 1) true ⟨spaces n ++ rest, m.newLine 1⟩ =
      (true, ⟨rest, (m.newLine 1).after (spaces n)⟩) := toNextToken_spaces false h
  rw [Mark.after_cons_break m isBreak_lineFeed, ← hnext, toNextToken]
  simp [Cursor.skipWhile, Cursor.skipBreak, Mark.advance, isBreak_lineFeed, byteOrderMark]

lemma skipBreak_notAfter (c : Cursor) : c.mark.NotAfter c.skipBreak.mark := by
  unfold Cursor.skipBreak
  split
  · exact Mark.notAfter_newLine _ _
  · split
    · exact Mark.notAfter_newLine _ _
    · exact .refl _
  · exact .refl _

/-- The next token is not before the gap in front of it. -/
lemma toNextToken_notAfter (inFlow : Bool) (fuel : Nat) (allowed : Bool) (c : Cursor) :
    c.mark.NotAfter (toNextToken inFlow fuel allowed c).2.mark := by
  induction fuel generalizing allowed c with
  | zero => exact .refl _
  | succ fuel ih =>
    simp only [toNextToken]
    generalize hc₁ : (if c.mark.column = 0 ∧ c.rest.head? = some byteOrderMark then c.skip 1
      else c) = c₁
    have h₁ : c.mark.NotAfter c₁.mark := by
      rw [← hc₁]
      split
      · exact Mark.notAfter_advance _ _
      · exact .refl _
    generalize hc₂ : c₁.skipWhile (fun x => x = ' ' || (x = '\t' && (inFlow || !allowed))) = c₂
    have h₂ : c₁.mark.NotAfter c₂.mark := hc₂ ▸ Mark.notAfter_advance _ _
    generalize hc₃ : (if c₂.rest.head? = some '#' then c₂.skipWhile fun x => !isBreak x
      else c₂) = c₃
    have h₃ : c₂.mark.NotAfter c₃.mark := by
      rw [← hc₃]
      split
      · exact Mark.notAfter_advance _ _
      · exact .refl _
    refine h₁.trans (h₂.trans (h₃.trans ?_))
    split
    · exact (skipBreak_notAfter _).trans (ih _ _)
    · exact .refl _

end Scan
end Sidecars.Yaml
