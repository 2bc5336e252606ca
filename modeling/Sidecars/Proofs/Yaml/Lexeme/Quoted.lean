import Mathlib.Algebra.Group.Nat.Defs
import Sidecars.Proofs.Yaml.Style

/-!
# Reading a quoted scalar back

Between single quotes a text stands as it is, with its quotes doubled and its lines indented; the
white space around a line break is folded away, which is why no space may stand there.  Between
double quotes nothing is folded, because every line break is an escape.

* `quoted_single` and `quoted_double` read the two forms back.
-/

namespace Sidecars.Yaml.Lexeme

open Quoting

variable {single : Bool} {since m : Mark} {phase : QuotedPhase} {f : Folding} {c : Char}
  {s tail rest : List Char}

/-! ## Steps of the reader -/

/-- Whether the reader is not inside an escape. -/
def QuotedPhase.isOpen : QuotedPhase → Bool
  | .digits _ _ _ => false
  | _ => true

lemma quotedFrom_blank (hphase : phase.isOpen = true) (hc : isBlank c = true) :
    quotedFrom single since phase f m (c :: rest) =
      quotedFrom single since .white (f.blank c) m.next rest := by
  cases phase with
  | digits => simp [QuotedPhase.isOpen] at hphase
  | text => rw [quotedFrom.eq_def]; simp [hc]
  | white => rw [quotedFrom.eq_def]; simp [hc]

lemma quotedFrom_break (hphase : phase.isOpen = true) (hblank : isBlank c = false)
    (hc : isBreak c = true) (hreturn : c ≠ '\r') :
    quotedFrom single since phase f m (c :: rest) =
      quotedFrom single since .white (f.newLine c) (m.newLine 1) rest := by
  cases phase with
  | digits => simp [QuotedPhase.isOpen] at hphase
  | text => rw [quotedFrom.eq_def]; simp [hc, hblank, hreturn]
  | white => rw [quotedFrom.eq_def]; simp [hc, hblank, hreturn]

/-- A character of the text away from the start of a line. -/
lemma quotedFrom_char (hphase : phase.isOpen = true) (hwhite : isWhite c = false)
    (hcolumn : 0 < m.column) (hc : c ≠ (if single then '\'' else '"'))
    (hescape : single = true ∨ c ≠ '\\') :
    quotedFrom single since phase f m (c :: rest) =
      quotedFrom single since .text (f.push c) m.next rest := by
  simp only [isWhite, Bool.or_eq_false_iff] at hwhite
  have hcol : m.column ≠ 0 := by omega
  cases phase with
  | digits => simp [QuotedPhase.isOpen] at hphase
  | text => rw [quotedFrom.eq_def]; cases single <;> simp_all
  | white => rw [quotedFrom.eq_def]; cases single <;> simp_all

lemma quotedFrom_doubledQuote (hphase : phase.isOpen = true) (hcolumn : 0 < m.column) :
    quotedFrom true since phase f m ('\'' :: '\'' :: rest) =
      quotedFrom true since .text (f.push '\'') (m.advance 2) rest := by
  have hcol : m.column ≠ 0 := by omega
  cases phase with
  | digits => simp [QuotedPhase.isOpen] at hphase
  | text => rw [quotedFrom.eq_def]; simp [isBlank, isBreak]
  | white => rw [quotedFrom.eq_def]; simp [isBlank, isBreak, hcol]

lemma quotedFrom_endSingle (hphase : phase.isOpen = true) (hcolumn : 0 < m.column)
    (htail : tail.head? ≠ some '\'') :
    quotedFrom true since phase f m ('\'' :: tail) =
      .ok ({ f with text := f.joined }, ⟨tail, m.next⟩) := by
  have hcol : m.column ≠ 0 := by omega
  have hstop : ∀ rest, tail ≠ '\'' :: rest := by
    rintro rest rfl
    exact htail rfl
  cases phase with
  | digits => simp [QuotedPhase.isOpen] at hphase
  | text =>
    rw [quotedFrom.eq_def]
    simp only [isBlank, isBreak]
    split <;> simp_all
  | white =>
    rw [quotedFrom.eq_def]
    simp only [isBlank, isBreak]
    split <;> simp_all

lemma quotedFrom_endDouble (hphase : phase.isOpen = true) (hcolumn : 0 < m.column) :
    quotedFrom false since phase f m ('"' :: tail) =
      .ok ({ f with text := f.joined }, ⟨tail, m.next⟩) := by
  have hcol : m.column ≠ 0 := by omega
  cases phase with
  | digits => simp [QuotedPhase.isOpen] at hphase
  | text => rw [quotedFrom.eq_def]; simp [isBlank, isBreak]
  | white => rw [quotedFrom.eq_def]; simp [isBlank, isBreak, hcol]

/-! ## Between single quotes -/

/-- White space as it is left by a text in which no space stands beside a line break, and in which
no line break is a line feed. -/
structure Folding.Kept (f : Folding) : Prop where
  inline : f.onNewLine = false → f.firstBreak = none ∧ f.moreBreaks = []
  newLine : f.onNewLine = true → f.blanks = [] ∧ ∃ b, f.firstBreak = some b ∧ b ≠ '\n'

namespace Folding.Kept

lemma empty : Folding.empty.Kept := ⟨fun _ => ⟨rfl, rfl⟩, fun h => by simp [Folding.empty] at h⟩

lemma push (f : Folding) (c : Char) : (f.push c).Kept :=
  ⟨fun _ => ⟨rfl, rfl⟩, fun h => by simp [Folding.push] at h⟩

lemma blank (h : f.Kept) (hline : f.onNewLine = false) (c : Char) : (f.blank c).Kept := by
  obtain ⟨hfirst, hmore⟩ := h.inline hline
  refine ⟨fun _ => ?_, fun hnew => ?_⟩
  · simp [Folding.blank, hline, hfirst, hmore]
  · simp [Folding.blank, hline] at hnew

lemma joined_blank (hline : f.onNewLine = false) (c : Char) :
    (f.blank c).joined = c :: f.joined := by
  simp [Folding.blank, Folding.joined, hline]

lemma joined_push (f : Folding) (c : Char) : (f.push c).joined = c :: f.joined := by
  simp [Folding.push, Folding.joined]

/-- A line break other than the line feed is kept, and so is every one after it. -/
lemma newLine_break (h : f.Kept) (hblanks : f.blanks = []) (hc : c ≠ '\n')
    (hfolded : foldedBreak c = c) :
    (f.newLine c).Kept ∧ (f.newLine c).joined = c :: f.joined := by
  cases hline : f.onNewLine with
  | false =>
    obtain ⟨-, hmore⟩ := h.inline hline
    refine ⟨⟨fun hnew => ?_, fun _ => ?_⟩, ?_⟩
    · simp [Folding.newLine, hline] at hnew
    · simp [Folding.newLine, hline, hfolded, hc]
    · simp only [Folding.newLine, Folding.joined, hline, hfolded, hmore, hblanks]
      split <;> simp_all
  | true =>
    obtain ⟨-, b, hfirst, hb⟩ := h.newLine hline
    refine ⟨⟨fun hnew => ?_, fun _ => ?_⟩, ?_⟩
    · simp [Folding.newLine, hline] at hnew
    · simp [Folding.newLine, hline, hfirst, hb, hblanks]
    · simp only [Folding.newLine, Folding.joined, hline, hfirst, hfolded]
      split <;> simp_all

end Folding.Kept

/-- The margin of a line inside quotes is skipped. -/
lemma quotedFrom_margin (hphase : phase.isOpen = true) (hline : f.onNewLine = true) {n : Nat}
    (hn : 0 < n) :
    quotedFrom single since phase f m (spaces n ++ rest) =
      quotedFrom single since .white f (m.after (spaces n)) rest := by
  have hblank : f.blank ' ' = f := by simp [Folding.blank, hline]
  induction n generalizing phase m with
  | zero => omega
  | succ n ih =>
    rw [spaces_succ, List.cons_append, quotedFrom_blank hphase (by decide), hblank,
      Mark.after_cons_of_not_break _ (by decide)]
    cases n with
    | zero => rfl
    | succ n => exact ih rfl (by omega)

/-- In front of a character the margin is behind the reader, who is not at the start of a line. -/
lemma quotedFrom_lead (single : Bool) (since : Mark) (hphase : phase.isOpen = true) {n : Nat}
    (hn : 0 < n)
    (hcolumn : f.onNewLine = false → 0 < m.column) :
    ∃ phase' : QuotedPhase, phase'.isOpen = true ∧ 0 < (m.after (margin n f.onNewLine)).column ∧
      ∀ rest, quotedFrom single since phase f m (margin n f.onNewLine ++ rest) =
        quotedFrom single since phase' f (m.after (margin n f.onNewLine)) rest := by
  cases hline : f.onNewLine with
  | false => exact ⟨phase, hphase, hcolumn hline, fun _ => rfl⟩
  | true =>
    refine ⟨.white, rfl, ?_, fun _ => quotedFrom_margin hphase hline hn⟩
    simp only [margin, if_true, Mark.after_spaces, Mark.advance]
    omega

lemma doubled_cons_quote (s : List Char) : doubled ('\'' :: s) = '\'' :: '\'' :: doubled s := rfl

lemma doubled_cons (hc : c ≠ '\'') (s : List Char) : doubled (c :: s) = c :: doubled s := by
  simp [doubled, hc]

/-- What stands between single quotes is put together character by character. -/
lemma indented_doubled_cons (n : Nat) (fresh : Bool) (c : Char) (s : List Char) :
    indented n fresh (doubled (c :: s)) =
      indented n fresh (doubled [c]) ++ indented n (isBreak c) (doubled s) := by
  by_cases hc : c = '\''
  · subst hc
    have hquote : isBreak '\'' = false := by decide
    rw [doubled_cons_quote, doubled_cons_quote, indented_cons hquote, indented_cons hquote,
      indented_cons hquote, indented_cons hquote, hquote, List.append_assoc]
    rfl
  · rw [doubled_cons hc, doubled_cons hc]
    exact indented_eq_append n fresh c (doubled s)

/-- The margin in front of the closing quote. -/
def closing (indent : Nat) (fresh : Bool) (s : List Char) : List Char :=
  if endsFresh fresh s then spaces indent else []

/-- What holds of the reader in front of the rest `s` of a text between single quotes. -/
structure SingleReady (s : List Char) (phase : QuotedPhase) (f : Folding) (m : Mark) : Prop where
  isOpen : phase.isOpen = true
  kept : f.Kept
  /-- No space stands behind a line break. -/
  breakSpace : f.onNewLine = true → s.head?.any Traits.isSpace = false
  /-- No line break stands behind a space. -/
  spaceBreak : f.blanks ≠ [] → s.head?.any isBreak = false
  column : f.onNewLine = false → 0 < m.column

/-- Behind the written form of a character the reader has it and is ready for the rest. -/
def ReadsSingle (indent : Nat) (since : Mark) (c : Char) (s : List Char) (phase : QuotedPhase)
    (f : Folding) (m : Mark) : Prop :=
  ∃ phase' f', SingleReady s phase' f' (m.after (indented indent f.onNewLine (doubled [c]))) ∧
    f'.onNewLine = isBreak c ∧ f'.joined = c :: f.joined ∧
    ∀ rest, quotedFrom true since phase f m (indented indent f.onNewLine (doubled [c]) ++ rest) =
      quotedFrom true since phase' f' (m.after (indented indent f.onNewLine (doubled [c]))) rest

variable {indent : Nat}

namespace SingleReady

/-- A line break goes to the line breaks that are kept back. -/
lemma reads_break (hready : SingleReady (c :: s) phase f m) (h : SingleText (c :: s))
    (hc : isBreak c = true) : ReadsSingle indent since c s phase f m := by
  have hprint := h.printable c (by simp)
  have hblanks : f.blanks = [] := by
    by_contra hne
    simpa [hc] using hready.spaceBreak hne
  have hfeed : c ≠ '\n' := by
    rintro rfl
    exact h.unfed (by simp)
  have hquote : c ≠ '\'' := by
    rintro rfl
    exact absurd hc (by decide)
  have hblank : isBlank c = false := by
    rw [Bool.eq_false_iff, ne_eq, isBlank_iff_of_isPrintable hprint]
    rintro rfl
    exact absurd hc (by decide)
  obtain ⟨hkept, hjoined⟩ :=
    hready.kept.newLine_break hblanks hfeed (foldedBreak_eq_self hprint hc)
  have hnew : (f.newLine c).onNewLine = true := by
    unfold Folding.newLine
    split
    · assumption
    · rfl
  have hnone : (f.newLine c).blanks = [] := (hkept.newLine hnew).1
  have hspace : s.head?.any Traits.isSpace = false := by
    have hadjacent := h.breakSpace
    rw [Traits.adjacent_cons, hc, Bool.true_and, Bool.or_eq_false_iff] at hadjacent
    exact hadjacent.1
  have hshown : indented indent f.onNewLine (doubled [c]) = [c] := by
    rw [doubled_cons hquote, indented_cons_break hc]
    rfl
  have hafter : m.after [c] = m.newLine 1 := Mark.after_cons_break m hc
  refine ⟨.white, f.newLine c, ⟨rfl, hkept, fun _ => hspace, fun hne => absurd hnone hne,
    fun hline => ?_⟩, hnew.trans hc.symm, hjoined, fun rest => ?_⟩
  · rw [hnew] at hline
    cases hline
  · rw [hshown, hafter, List.singleton_append,
      quotedFrom_break hready.isOpen hblank hc (ne_return_of_isPrintable hprint)]

/-- A quote is written twice and read once. -/
lemma reads_quote (hready : SingleReady ('\'' :: s) phase f m) (hindent : 0 < indent) :
    ReadsSingle indent since '\'' s phase f m := by
  have hquote : isBreak '\'' = false := by decide
  obtain ⟨phase', hopen, hcol, hlead⟩ :=
    quotedFrom_lead true since hready.isOpen hindent hready.column
  have hshown : indented indent f.onNewLine (doubled ['\'']) =
      margin indent f.onNewLine ++ ['\'', '\''] := by
    rw [doubled_cons_quote, indented_cons hquote, indented_cons hquote]
    rfl
  have hafter : m.after (margin indent f.onNewLine ++ ['\'', '\'']) =
      (m.after (margin indent f.onNewLine)).advance 2 := by
    rw [Mark.after_append]
    rfl
  refine ⟨.text, f.push '\'', ⟨rfl, .push f _, fun hline => ?_, fun hne => absurd rfl hne,
    fun _ => ?_⟩, hquote.symm, Folding.Kept.joined_push f _, fun rest => ?_⟩
  · cases hline
  · rw [hshown, hafter]
    simp [Mark.advance]
  · rw [hshown, hafter, List.append_assoc, hlead]
    exact quotedFrom_doubledQuote hopen hcol

/-- A space stands on the line of the text and is kept back with the blanks. -/
lemma reads_space (hready : SingleReady (' ' :: s) phase f m) (h : SingleText (' ' :: s)) :
    ReadsSingle indent since ' ' s phase f m := by
  have hline : f.onNewLine = false := by
    rw [Bool.eq_false_iff]
    exact fun hnew => by simpa [Traits.isSpace] using hready.breakSpace hnew
  have hbreak : s.head?.any isBreak = false := by
    have hadjacent := h.spaceBreak
    rw [Traits.adjacent_cons, Bool.or_eq_false_iff] at hadjacent
    simpa [Traits.isSpace] using hadjacent.1
  have hspace : isBreak ' ' = false := by decide
  have hshown : indented indent f.onNewLine (doubled [' ']) = [' '] := by
    rw [hline, doubled_cons (by decide), indented_cons hspace]
    rfl
  have hafter : m.after [' '] = m.next := Mark.after_cons_of_not_break m hspace
  have hline' : (f.blank ' ').onNewLine = false := by simp [Folding.blank, hline]
  refine ⟨.white, f.blank ' ', ⟨rfl, hready.kept.blank hline ' ', fun hnew => ?_, fun _ => hbreak,
    fun _ => ?_⟩, hline'.trans hspace.symm, Folding.Kept.joined_blank hline ' ', fun rest => ?_⟩
  · rw [hline'] at hnew
    cases hnew
  · rw [hshown, hafter]
    simp [Mark.next]
  · rw [hshown, hafter, List.singleton_append, quotedFrom_blank hready.isOpen (by decide)]

/-- Every other character goes to the text. -/
lemma reads_char (hready : SingleReady (c :: s) phase f m) (hindent : 0 < indent)
    (hbreak : isBreak c = false) (hwhite : isWhite c = false) (hquote : c ≠ '\'') :
    ReadsSingle indent since c s phase f m := by
  obtain ⟨phase', hopen, hcol, hlead⟩ :=
    quotedFrom_lead true since hready.isOpen hindent hready.column
  have hshown : indented indent f.onNewLine (doubled [c]) =
      margin indent f.onNewLine ++ [c] := by
    rw [doubled_cons hquote, indented_cons hbreak]
    rfl
  have hafter : m.after (margin indent f.onNewLine ++ [c]) =
      (m.after (margin indent f.onNewLine)).next := by
    rw [Mark.after_append, Mark.after_cons_of_not_break _ hbreak, Mark.after_nil]
  refine ⟨.text, f.push c, ⟨rfl, .push f _, fun hline => ?_, fun hne => absurd rfl hne,
    fun _ => ?_⟩, hbreak.symm, Folding.Kept.joined_push f _, fun rest => ?_⟩
  · cases hline
  · rw [hshown, hafter]
    simp [Mark.next]
  · rw [hshown, hafter, List.append_assoc, hlead]
    exact quotedFrom_char hopen hwhite hcol (by simpa using hquote) (.inl rfl)

/-- Whichever character comes next, it is read. -/
lemma reads (since : Mark) (hready : SingleReady (c :: s) phase f m) (h : SingleText (c :: s))
    (hindent : 0 < indent) : ReadsSingle indent since c s phase f m := by
  cases hbreak : isBreak c with
  | true => exact hready.reads_break h hbreak
  | false =>
    by_cases hquote : c = '\''
    · subst hquote
      exact hready.reads_quote hindent
    · by_cases hspace : c = ' '
      · subst hspace
        exact hready.reads_space h
      · have hblank : isBlank c = false := by
          rw [Bool.eq_false_iff, ne_eq, isBlank_iff_of_isPrintable (h.printable c (by simp))]
          exact hspace
        exact hready.reads_char hindent hbreak (by simp [isWhite, hblank, hbreak]) hquote

/-- At the end of the text, the margin is skipped and the quote is found. -/
lemma reads_closing (hready : SingleReady [] phase f m) (hindent : 0 < indent)
    (htail : tail.head? ≠ some '\'') :
    quotedFrom true since phase f m (closing indent f.onNewLine [] ++ '\'' :: tail) =
      .ok ({ f with text := f.joined },
        ⟨tail, m.after (closing indent f.onNewLine [] ++ ['\''])⟩) := by
  have hquote : isBreak '\'' = false := by decide
  obtain ⟨phase', hopen, hcol, hlead⟩ :=
    quotedFrom_lead true since hready.isOpen hindent hready.column
  have hclosing : closing indent f.onNewLine [] = margin indent f.onNewLine := rfl
  rw [hclosing, hlead, quotedFrom_endSingle hopen hcol htail, Mark.after_append,
    Mark.after_cons_of_not_break _ hquote, Mark.after_nil]

end SingleReady

lemma quotedFrom_single_text (since : Mark) (hindent : 0 < indent) (h : SingleText s)
    (hready : SingleReady s phase f m) (htail : tail.head? ≠ some '\'') :
    ∃ f', quotedFrom true since phase f m (indented indent f.onNewLine (doubled s) ++
          (closing indent f.onNewLine s ++ '\'' :: tail)) =
        .ok (f', ⟨tail, m.after (indented indent f.onNewLine (doubled s) ++
          (closing indent f.onNewLine s ++ ['\'']))⟩) ∧
      f'.text = s.reverse ++ f.joined := by
  induction s generalizing phase f m with
  | nil => exact ⟨_, hready.reads_closing hindent htail, rfl⟩
  | cons c s ih =>
    obtain ⟨phase', f', hready', hline, hjoined, hstep⟩ := hready.reads since h hindent
    obtain ⟨f'', hread, htext⟩ := ih h.tail hready'
    rw [hline] at hread
    have hclosing : closing indent f.onNewLine (c :: s) = closing indent (isBreak c) s := by
      rw [closing, endsFresh_cons, closing]
    refine ⟨f'', ?_, by simp [htext, hjoined]⟩
    rw [hclosing, indented_doubled_cons, List.append_assoc, hstep, hread, List.append_assoc,
      Mark.after_append m (indented indent f.onNewLine (doubled [c]))]

/-- A text between single quotes is read back. -/
theorem quoted_single (hindent : 0 < indent) (h : SingleText s) (htail : tail.head? ≠ some '\'') :
    quoted true ⟨Quoting.single indent s ++ tail, m⟩ =
      .ok (.scalar s .quoted, ⟨tail, m.after (Quoting.single indent s)⟩) := by
  have hclosing : closing indent false s = if s.getLast?.any isBreak then spaces indent else [] := by
    unfold closing endsFresh
    cases s.getLast? <;> rfl
  have hready : SingleReady s .text .empty m.next :=
    ⟨rfl, .empty, by simp [Folding.empty], by simp [Folding.empty], by simp [Mark.next]⟩
  obtain ⟨f, hread, htext⟩ := quotedFrom_single_text m hindent h hready htail
  simp only [Folding.empty, hclosing] at hread
  have hquote : isBreak '\'' = false := by decide
  simp only [quoted, Quoting.single, List.cons_append, List.append_assoc, List.nil_append,
    List.drop_succ_cons, List.drop_zero, Mark.after_cons_of_not_break _ hquote]
  simp only [Folding.empty, hread]
  simp [htext, Folding.joined, Folding.empty]

/-! ## Between double quotes -/

lemma digit?_digit {d : Nat} (hd : d < 16) :
    Scalar.digit? 16 (Text.Escaped.digit d).toUpper = some d := by
  revert d
  decide

/-- The digits of a number lead from a value to the value with the number behind it, while more
digits are still to come. -/
lemma quotedFrom_hex {first : Mark} (width n : Nat) (hn : n < 16 ^ width) {left : Nat}
    (hleft : 0 < left) (value : Nat) (rest : List Char) :
    quotedFrom single since (.digits (left + width) value first) f m (hex width n ++ rest) =
      quotedFrom single since (.digits left (value * 16 ^ width + n) first) f (m.advance width)
        rest := by
  induction width generalizing n left rest with
  | zero =>
    obtain rfl : n = 0 := by simpa using hn
    simp [hex, Text.Escaped.fixedDigits, Mark.advance]
  | succ width ih =>
    have hdiv : n / 16 < 16 ^ width := by
      rw [Nat.div_lt_iff_lt_mul (by decide), ← Nat.pow_succ]
      exact hn
    have hdigit : Scalar.digit? 16 (Text.Escaped.digit (n % 16)).toUpper = some (n % 16) :=
      digit?_digit (Nat.mod_lt _ (by decide))
    have hmore : ¬ left + 1 ≤ 1 := by omega
    have hvalue : (value * 16 ^ width + n / 16) * 16 + n % 16 = value * 16 ^ (width + 1) + n := by
      have hsplit := Nat.div_add_mod n 16
      rw [Nat.pow_succ, Nat.add_mul, Nat.mul_assoc]
      omega
    have happend : hex (width + 1) n = hex width (n / 16) ++
        [(Text.Escaped.digit (n % 16)).toUpper] := by
      simp [hex, Text.Escaped.fixedDigits]
    rw [happend, List.append_assoc, show left + (width + 1) = left + 1 + width by omega,
      ih (n / 16) hdiv (by omega), List.singleton_append, quotedFrom.eq_def]
    simp only [hdigit, hmore, if_false, hvalue, Nat.add_sub_cancel]
    rfl

/-- All digits of a character's number stand for the character. -/
lemma quotedFrom_hex_char {first : Mark} (width : Nat) (c : Char)
    (hc : c.toNat < 16 ^ (width + 1)) (rest : List Char) :
    quotedFrom single since (.digits (width + 1) 0 first) f m (hex (width + 1) c.toNat ++ rest) =
      quotedFrom single since .text (f.push c) (m.advance (width + 1)) rest := by
  have hdiv : c.toNat / 16 < 16 ^ width := by
    rw [Nat.div_lt_iff_lt_mul (by decide), ← Nat.pow_succ]
    exact hc
  have hdigit : Scalar.digit? 16 (Text.Escaped.digit (c.toNat % 16)).toUpper =
      some (c.toNat % 16) := digit?_digit (Nat.mod_lt _ (by decide))
  have happend : hex (width + 1) c.toNat = hex width (c.toNat / 16) ++
      [(Text.Escaped.digit (c.toNat % 16)).toUpper] := by
    simp [hex, Text.Escaped.fixedDigits]
  have hvalue : c.toNat / 16 * 16 + c.toNat % 16 = c.toNat := Nat.div_add_mod' _ _
  have hvalid : c.toNat.isValidChar := c.valid
  rw [happend, List.append_assoc, Nat.add_comm width 1,
    quotedFrom_hex width _ hdiv (by decide), List.singleton_append, quotedFrom.eq_def]
  simp only [hdigit, Nat.le_refl, if_true, Nat.zero_mul, Nat.zero_add, hvalue, hvalid,
    Char.ofNat_toNat]
  simp [Mark.advance, Mark.next, Nat.add_comm 1, Nat.add_assoc]

lemma plain_of_mem_hex {width n : Nat} {d : Char} (h : d ∈ hex width n) :
    isPrintable d = true ∧ isBreak d = false := by
  have hdigit (k : Nat) (hk : k < 16) :
      isPrintable (Text.Escaped.digit k).toUpper = true ∧
        isBreak (Text.Escaped.digit k).toUpper = false := by
    revert k
    decide
  induction width generalizing n with
  | zero => simp [hex, Text.Escaped.fixedDigits] at h
  | succ width ih =>
    simp only [hex, Text.Escaped.fixedDigits, List.map_append, List.mem_append, List.map_cons,
      List.map_nil, List.mem_singleton] at h
    rcases h with h | rfl
    · exact ih h
    · exact hdigit _ (Nat.mod_lt _ (by decide))

lemma length_hex (width n : Nat) : (hex width n).length = width := by
  induction width generalizing n with
  | zero => rfl
  | succ width ih =>
    have := ih (n / 16)
    simpa [hex, Text.Escaped.fixedDigits] using this

lemma plain_of_letter? {l : Char} (h : letter? c = some l) :
    isPrintable l = true ∧ isBreak l = false := by
  unfold letter? at h
  split at h
  case h_16 => exact absurd h (by simp)
  all_goals
    obtain rfl := Option.some.inj h
    decide

/-- The characters of an escaped text can be shown, and none of them breaks a line. -/
lemma plain_of_mem_escaped {d : Char} (h : d ∈ escaped c) :
    isPrintable d = true ∧ isBreak d = false := by
  have hslash : isPrintable '\\' = true ∧ isBreak '\\' = false := by decide
  unfold escaped at h
  split at h
  · rename_i hc
    obtain rfl := List.mem_singleton.mp h
    simp only [Bool.and_eq_true, Bool.not_eq_true'] at hc
    exact ⟨hc.1.1.1, hc.1.1.2⟩
  · split at h
    · rename_i l hl
      rcases List.mem_cons.mp h with rfl | h
      · exact hslash
      · obtain rfl := List.mem_singleton.mp h
        exact plain_of_letter? hl
    · have hx : isPrintable 'x' = true ∧ isBreak 'x' = false := by decide
      have hu : isPrintable 'u' = true ∧ isBreak 'u' = false := by decide
      have hU : isPrintable 'U' = true ∧ isBreak 'U' = false := by decide
      simp only at h
      split_ifs at h <;> rcases List.mem_cons.mp h with rfl | h <;>
        first
          | exact hslash
          | (rcases List.mem_cons.mp h with rfl | h
             · assumption
             · exact plain_of_mem_hex h)

lemma escape?_of_letter? {l : Char} (h : letter? c = some l) : escape? l = some c := by
  have hof (n : Nat) (hn : c.toNat = n) : c = Char.ofNat n := by rw [← hn, Char.ofNat_toNat]
  unfold letter? at h
  split at h
  case h_16 => exact absurd h (by simp)
  all_goals
    rename_i hn
    obtain rfl := Option.some.inj h
    rw [hof _ hn]
    decide

/-- An escape is a letter, or announces digits. -/
lemma quotedFrom_escape {l : Char} (hphase : phase.isOpen = true) (hcolumn : 0 < m.column)
    (hbreak : isBreak l = false) :
    quotedFrom false since phase f m ('\\' :: l :: rest) =
      match escape? l, escapeDigits? l with
      | some x, _ => quotedFrom false since .text (f.push x) (m.advance 2) rest
      | none, some n =>
        quotedFrom false since (.digits n 0 (m.advance 2)) f (m.advance 2) rest
      | none, none => .error (.during .quotedScalarPart since .unknownEscape m) := by
  have hcol : m.column ≠ 0 := by omega
  have hslash : isBlank '\\' = false ∧ isBreak '\\' = false := by decide
  have hreturn : l ≠ '\r' := by
    rintro rfl
    exact absurd hbreak (by decide)
  cases phase with
  | digits => simp [QuotedPhase.isOpen] at hphase
  | text =>
    rw [quotedFrom.eq_def]
    cases hx : escape? l <;> cases hd : escapeDigits? l <;>
      simp [hslash, hbreak, hreturn, hx, hd]
  | white =>
    rw [quotedFrom.eq_def]
    cases hx : escape? l <;> cases hd : escapeDigits? l <;>
      simp [hslash, hbreak, hreturn, hcol, hx, hd]

/-- An escaped character is read as the character. -/
lemma quotedFrom_escaped (since : Mark) (hphase : phase.isOpen = true) (hcolumn : 0 < m.column)
    (hline : f.onNewLine = false) (c : Char) :
    ∃ (phase' : QuotedPhase) (f' : Folding), phase'.isOpen = true ∧ f'.onNewLine = false ∧
      f'.joined = c :: f.joined ∧
      ∀ rest, quotedFrom false since phase f m (escaped c ++ rest) =
        quotedFrom false since phase' f' (m.after (escaped c)) rest := by
  have hover : m.after (escaped c) = m.advance (escaped c).length :=
    Mark.after_of_no_break m fun d hd => (plain_of_mem_escaped hd).2
  by_cases hblank : isBlank c = true ∧ isPrintable c = true
  · -- a space is written as it is, and kept back as white space
    obtain rfl := (isBlank_iff_of_isPrintable hblank.2).mp hblank.1
    exact ⟨.white, f.blank ' ', rfl, by simp [Folding.blank, hline],
      Folding.Kept.joined_blank hline ' ', fun rest => quotedFrom_blank hphase (by decide)⟩
  · refine ⟨.text, f.push c, rfl, rfl, Folding.Kept.joined_push f c, fun rest => ?_⟩
    -- as it is, with one letter, or with two, four or eight digits
    rw [hover]
    unfold escaped
    split
    · rename_i hshown
      simp only [Bool.and_eq_true, Bool.not_eq_true', decide_eq_true_eq] at hshown
      obtain ⟨⟨⟨hprint, hbreak⟩, hquote⟩, hslash⟩ := hshown
      have hwhite : isWhite c = false := by
        simp only [isWhite, hbreak, Bool.or_false]
        exact Bool.eq_false_iff.mpr fun h => hblank ⟨h, hprint⟩
      exact quotedFrom_char hphase hwhite hcolumn (by simpa using hquote) (.inr hslash)
    · split
      · rename_i l hl
        rw [List.cons_append, List.singleton_append,
          quotedFrom_escape hphase hcolumn (plain_of_letter? hl).2, escape?_of_letter? hl]
        rfl
      · have hmax : c.toNat < 16 ^ 8 := by
          rcases c.valid with h | h
          · exact Nat.lt_trans h (by decide)
          · exact Nat.lt_trans h.2 (by decide)
        have hbreaks : isBreak 'x' = false ∧ isBreak 'u' = false ∧ isBreak 'U' = false := by decide
        simp only
        split_ifs with hx hu <;>
          rw [List.cons_append, List.cons_append, quotedFrom_escape hphase hcolumn (by simp [hbreaks])]
        · exact quotedFrom_hex_char 1 c (by omega) rest
        · exact quotedFrom_hex_char 3 c (by omega) rest
        · exact quotedFrom_hex_char 7 c (by omega) rest

lemma quotedFrom_double_text (since m : Mark) (phase : QuotedPhase) (f : Folding)
    (hphase : phase.isOpen = true) (hcolumn : 0 < m.column)
    (hline : f.onNewLine = false) (s tail : List Char) :
    ∃ f', quotedFrom false since phase f m (s.flatMap escaped ++ '"' :: tail) =
        .ok (f', ⟨tail, m.after (s.flatMap escaped ++ ['"'])⟩) ∧
      f'.text = s.reverse ++ f.joined := by
  induction s generalizing phase f m with
  | nil =>
    refine ⟨{ f with text := f.joined }, ?_, rfl⟩
    rw [List.flatMap_nil, List.nil_append, List.nil_append, quotedFrom_endDouble hphase hcolumn,
      Mark.after_cons_of_not_break _ (by decide), Mark.after_nil]
  | cons c s ih =>
    obtain ⟨phase', f', hphase', hline', hjoined, hstep⟩ :=
      quotedFrom_escaped since hphase hcolumn hline c
    have hcolumn' : 0 < (m.after (escaped c)).column := by
      rw [Mark.after_of_no_break m fun d hd => (plain_of_mem_escaped hd).2]
      simp only [Mark.advance]
      omega
    obtain ⟨f'', hread, htext⟩ := ih _ phase' f' hphase' hcolumn' hline'
    refine ⟨f'', ?_, by simp [htext, hjoined]⟩
    rw [List.flatMap_cons, List.append_assoc, hstep, hread, List.append_assoc,
      Mark.after_append m (escaped c)]

/-- A text between double quotes is read back, whatever it holds. -/
theorem quoted_double (s tail : List Char) :
    quoted false ⟨Quoting.double s ++ tail, m⟩ =
      .ok (.scalar s .quoted, ⟨tail, m.after (Quoting.double s)⟩) := by
  obtain ⟨f, hread, htext⟩ := quotedFrom_double_text m m.next .text .empty
    rfl (by simp [Mark.next]) rfl s tail
  have hquote : isBreak '"' = false := by decide
  simp only [quoted, Quoting.double, List.cons_append, List.append_assoc, List.nil_append,
    List.drop_succ_cons, List.drop_zero, Mark.after_cons_of_not_break _ hquote, hread]
  simp [htext, Folding.joined, Folding.empty]

end Sidecars.Yaml.Lexeme
