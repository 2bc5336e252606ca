import Sidecars.Proofs.Yaml.Style

/-!
# Reading a literal block back

A literal block keeps its lines.  Its header says how far the lines are indented when the first
line does not show it, and what becomes of the line breaks at its end; the reader goes on over the
margin of the next line until it sees that the line is no part of the block.

* `blockHeader_hints` reads the header, `blockFrom_text` the lines;
* `block_literal` reads a whole block back.
-/

namespace Sidecars.Yaml.Lexeme

open Quoting

variable {least indent n : Nat} {since m : Mark} {inLine : Bool} {b : Block} {c : Char}
  {s rest : List Char}

/-! ## The header -/

/-- What a hint says about the line breaks at the end. -/
def chompingOf (s : List Char) : Chomping :=
  match chompHint s with
  | ['-'] => .strip
  | ['+'] => .keep
  | _ => .clip

/-- The hints of a block, as its header is read. -/
lemma blockHeader_hints (since : Mark) (s rest : List Char) :
    blockHeader since ⟨indentHint s ++ (chompHint s ++ '\n' :: rest), m⟩ =
      .ok (if indentHint s = [] then 0 else 2, chompingOf s,
        ⟨'\n' :: rest, m.after (indentHint s ++ chompHint s)⟩) := by
  have hhint : indentHint s = [] ∨ indentHint s = ['2'] := by
    unfold indentHint
    split
    · split <;> simp
    · simp
  have hchomp : chompHint s = ['-'] ∨ chompHint s = ['+'] ∨ chompHint s = [] := by
    unfold chompHint
    split
    · simp
    · split <;> simp
    · split
      · simp
      · split <;> simp
  rcases hhint with hhint | hhint <;> rcases hchomp with hchomp | hchomp | hchomp <;>
    simp only [chompingOf, hhint, hchomp] <;> rfl

/-! ## The lines -/

/-- All that was read of a block, the last character first. -/
def Block.whole (b : Block) : List Char := b.moreBreaks ++ b.firstBreak.toList ++ b.text

lemma blockFrom_cons (hc : c ≠ '\r') :
    blockFrom false least since inLine b m (c :: rest) =
      if isBreak c then
        if inLine then
          blockFrom false least since false
            { b with firstBreak := some (foldedBreak c), moreBreaks := [] } (m.newLine 1) rest
        else
          blockFrom false least since false
            { b with moreBreaks := foldedBreak c :: b.moreBreaks, widest := max b.widest m.column }
            (m.newLine 1) rest
      else if inLine then
        blockFrom false least since true { b with text := c :: b.text } m.next rest
      else if c = ' ' ∧ b.inMargin m.column then
        blockFrom false least since false b m.next rest
      else if c = '\t' ∧ b.inMargin m.column then
        .error (.during .blockScalar since .tabInIndentation m)
      else
        if m.column = b.settled least m.column then
          blockFrom false least since true
            { text := c :: b.joined false c, firstBreak := none, moreBreaks := [],
              blankLine := isBlank c, indent := b.settled least m.column, widest := 0 } m.next rest
        else .ok (b, ⟨c :: rest, m⟩) := by
  rw [blockFrom]
  rintro rest' rfl
  exact absurd rfl hc

/-- The margin of a line is skipped. -/
lemma blockFrom_margin (hindent : b.indent = 0 ∨ m.column + n ≤ b.indent) :
    blockFrom false least since false b m (spaces n ++ rest) =
      blockFrom false least since false b (m.after (spaces n)) rest := by
  induction n generalizing m with
  | zero => rfl
  | succ n ih =>
    have hmargin : b.inMargin m.column = true := by
      simp only [Block.inMargin, Bool.or_eq_true, decide_eq_true_eq]
      omega
    rw [spaces_succ, List.cons_append, blockFrom_cons (by decide), if_neg (by decide),
      if_neg (by simp), if_pos ⟨rfl, hmargin⟩, ih (by simp only [Mark.next]; omega),
      Mark.after_cons_of_not_break _ (by decide)]

/-- Whether the column of the lines is known, or will be as soon as the text `s` is reached. -/
def Block.Aligned (b : Block) (indent : Nat) (s : List Char) : Prop :=
  b.indent = indent ∨ (b.indent = 0 ∧ b.widest = 0 ∧ ∀ c ∈ s.head?, c ≠ ' ' ∧ isBreak c = false)

/-- The first character of a line, behind its margin. -/
lemma blockFrom_first (since : Mark) (hbreak : isBreak c = false) (htab : c ≠ '\t')
    (hleast : least ≤ indent) (hindent : 0 < indent) (haligned : b.Aligned indent (c :: s))
    (hcolumn : m.column = 0) :
    ∃ b', b'.indent = indent ∧ b'.firstBreak = none ∧ b'.moreBreaks = [] ∧
      b'.whole = c :: b.whole ∧
      ∀ rest, blockFrom false least since false b m (spaces indent ++ c :: rest) =
        blockFrom false least since true b' (m.after (spaces indent ++ [c])) rest := by
  have hreturn : c ≠ '\r' := by
    rintro rfl
    exact absurd hbreak (by decide)
  have hcol : (m.after (spaces indent)).column = indent := by
    simp [Mark.after_spaces, Mark.advance, hcolumn]
  have hsettled : b.settled least (m.after (spaces indent)).column = indent := by
    rw [hcol, Block.settled]
    rcases haligned with h | ⟨h, hwidest, -⟩
    · rw [if_neg (by omega), h]
    · rw [if_pos h, hwidest]
      omega
  have hspace : ¬ (c = ' ' ∧ b.inMargin (m.after (spaces indent)).column = true) := by
    rw [hcol, Block.inMargin]
    rintro ⟨rfl, h⟩
    rcases haligned with hb | ⟨-, -, hhead⟩
    · simp only [Bool.or_eq_true, decide_eq_true_eq] at h
      omega
    · exact (hhead ' ' rfl).1 rfl
  refine ⟨⟨c :: b.joined false c, none, [], isBlank c, indent, 0⟩, rfl, rfl, rfl, ?_,
    fun rest => ?_⟩
  · simp [Block.whole, Block.joined]
  · have hmargin : b.indent = 0 ∨ m.column + indent ≤ b.indent := by
      rcases haligned with h | ⟨h, -⟩
      · right
        omega
      · exact .inl h
    rw [blockFrom_margin hmargin, blockFrom_cons hreturn, if_neg (by simp [hbreak]),
      if_neg (by simp), if_neg hspace, if_neg (fun h => htab h.1), hsettled, if_pos hcol,
      Mark.after_append, Mark.after_cons_of_not_break _ hbreak, Mark.after_nil]

/-- One more character, with the margin in front of it if it starts a line. -/
lemma blockFrom_char (since : Mark) (hleast : least ≤ indent) (hindent : 0 < indent) {fresh : Bool}
    (hc : isPrintable c = true) (haligned : b.Aligned indent (c :: s))
    (hline : fresh = false → b.indent = indent ∧ b.firstBreak = none ∧ b.moreBreaks = [])
    (hfresh : fresh = true → m.column = 0) :
    ∃ b', b'.indent = indent ∧ b'.whole = c :: b.whole ∧
      (isBreak c = false → b'.firstBreak = none) ∧
      (isBreak c = false ∨ fresh = false → b'.moreBreaks = []) ∧
      ∀ rest, blockFrom false least since (!fresh) b m (indented indent fresh [c] ++ rest) =
        blockFrom false least since (!isBreak c) b' (m.after (indented indent fresh [c])) rest := by
  have hreturn := ne_return_of_isPrintable hc
  cases hcb : isBreak c with
  | true =>
    -- the first line is not empty unless the column is known
    have hb : b.indent = indent := by
      refine haligned.resolve_right fun ⟨_, _, hhead⟩ => ?_
      exact absurd (hhead c rfl).2 (by simp [hcb])
    have hfolded := foldedBreak_eq_self hc hcb
    have hmark : m.after [c] = m.newLine 1 := Mark.after_cons_break _ hcb
    cases fresh with
    | false =>
      obtain ⟨-, hfirst, hmore⟩ := hline rfl
      refine ⟨{ b with firstBreak := some c, moreBreaks := [] }, hb,
        by simp [Block.whole, hfirst, hmore], by simp, fun _ => rfl, fun rest => ?_⟩
      rw [indented_cons_break hcb, indented, hmark, List.singleton_append, blockFrom_cons hreturn,
        if_pos hcb, hfolded]
      rfl
    | true =>
      refine ⟨{ b with moreBreaks := c :: b.moreBreaks, widest := max b.widest m.column }, hb,
        by simp [Block.whole], by simp, by simp, fun rest => ?_⟩
      rw [indented_cons_break hcb, indented, hmark, List.singleton_append, blockFrom_cons hreturn,
        if_pos hcb, hfolded]
      rfl
  | false =>
    cases fresh with
    | false =>
      obtain ⟨hb, hfirst, hmore⟩ := hline rfl
      refine ⟨{ b with text := c :: b.text }, hb, by simp [Block.whole, hfirst, hmore],
        fun _ => hfirst, fun _ => hmore, fun rest => ?_⟩
      rw [indented_cons hcb, indented, margin, if_neg (by simp), List.nil_append,
        Mark.after_cons_of_not_break _ hcb, List.singleton_append, blockFrom_cons hreturn,
        if_neg (by simp [hcb])]
      rfl
    | true =>
      obtain ⟨b', hb, hfirst, hmore, hwhole, hstep⟩ := blockFrom_first since hcb
        (ne_tab_of_isPrintable hc) hleast hindent haligned (hfresh rfl)
      refine ⟨b', hb, hwhole, fun _ => hfirst, fun _ => hmore, fun rest => ?_⟩
      rw [indented_cons hcb, indented, margin, if_pos rfl, List.append_assoc]
      exact hstep rest

/-- Lines are read as they are.  The reader ends in a line or at the start of one, as the text
does. -/
lemma blockFrom_text (since m : Mark) (fresh : Bool) (hleast : least ≤ indent)
    (hindent : 0 < indent)
    (hprint : ∀ c ∈ s, isPrintable c = true) (haligned : b.Aligned indent s)
    (hline : fresh = false → b.indent = indent ∧ b.firstBreak = none ∧ b.moreBreaks = [])
    (hfresh : fresh = true → m.column = 0) :
    ∃ b', (s = [] → b' = b) ∧ (s ≠ [] → b'.indent = indent) ∧
      b'.whole = s.reverse ++ b.whole ∧
      (endsFresh fresh s = false → b'.firstBreak = none) ∧
      (s ≠ [] → endsFresh fresh s = false ∨ endsFresh fresh s.dropLast = false →
        b'.moreBreaks = []) ∧
      ∀ rest, blockFrom false least since (!fresh) b m (indented indent fresh s ++ rest) =
        blockFrom false least since (!endsFresh fresh s) b' (m.after (indented indent fresh s))
          rest := by
  induction s generalizing fresh b m with
  | nil => exact ⟨b, fun _ => rfl, by simp, rfl, fun h => (hline h).2.1, by simp, fun _ => rfl⟩
  | cons c s ih =>
    obtain ⟨b₁, hb₁, hwhole₁, hfirst₁, hmore₁, hstep⟩ := blockFrom_char since hleast
      hindent (hprint c (by simp)) haligned hline hfresh
    have hcol : isBreak c = true → (m.after (indented indent fresh [c])).column = 0 := by
      intro hcb
      rw [indented_cons_break hcb, indented, Mark.after_cons_break _ hcb]
      rfl
    -- behind the first character the column of the lines is known
    obtain ⟨b', hnil, hb', hwhole, hfirst, hmore, hread⟩ := ih _ _
      (fun d hd => hprint d (by simp [hd])) (.inl hb₁)
      (fun h => ⟨hb₁, hfirst₁ h, hmore₁ (.inl h)⟩) hcol
    refine ⟨b', by simp, fun _ => ?_, by simp [hwhole, hwhole₁], ?_, fun _ => ?_, fun rest => ?_⟩
    · by_cases hs : s = []
      · rw [hnil hs, hb₁]
      · exact hb' hs
    · rwa [endsFresh_cons]
    · rw [endsFresh_cons]
      by_cases hs : s = []
      · subst hs
        rw [hnil rfl]
        exact hmore₁
      · rw [List.dropLast_cons_of_ne_nil hs, endsFresh_cons]
        exact hmore hs
    · rw [endsFresh_cons, indented_eq_append, List.append_assoc, hstep, hread, Mark.after_append]

/-! ## The end -/

/-- The line break that a block needs behind its last line. -/
def ending (s : List Char) : List Char := if endsFresh true s then [] else ['\n']

lemma endLine_literal (hs : s ≠ []) (indent : Nat) :
    endLine (literal indent s) =
      '|' :: (indentHint s ++ (chompHint s ++ '\n' :: (indented indent true s ++ ending s))) := by
  obtain ⟨t, c, rfl⟩ : ∃ t c, s = t ++ [c] := ⟨_, _, (List.dropLast_concat_getLast hs).symm⟩
  have hlast : (literal indent (t ++ [c])).getLast? = some c := by
    simp [literal, List.getLast?_append, List.getLast?_cons, getLast?_indented]
  rw [endLine, hlast, ending, endsFresh_concat]
  cases hc : isBreak c <;> simp [literal, hc]

/-- No line break at the end is stripped, a single one clipped, and several are kept. -/
lemma chompingOf_eq (hs : s ≠ []) :
    chompingOf s =
      if endsFresh true s then if endsFresh true s.dropLast then .keep else .clip
      else .strip := by
  obtain ⟨t, c, rfl⟩ : ∃ t c, s = t ++ [c] := ⟨_, _, (List.dropLast_concat_getLast hs).symm⟩
  rw [endsFresh_concat, List.dropLast_concat, chompingOf, chompHint, List.reverse_append]
  rcases List.eq_nil_or_concat t with rfl | ⟨t, d, rfl⟩
  · cases hc : isBreak c <;> simp [hc, endsFresh]
  · rw [List.concat_eq_append, endsFresh_concat, List.reverse_append]
    cases hc : isBreak c <;> cases hd : isBreak d <;> simp [hc, hd]

/-- Where the next token stands further to the left, the block is at its end. -/
lemma blockFrom_end (hrest : opensToken rest = true) (hcolumn : m.column = 0)
    (hn : n < b.indent) :
    blockFrom false least since false b m (spaces n ++ rest) =
      .ok (b, ⟨rest, m.after (spaces n)⟩) := by
  rw [blockFrom_margin (.inr (by omega))]
  cases rest with
  | nil => rw [blockFrom]
  | cons c rest =>
    obtain ⟨hspace, htab, hbreak, -⟩ := Scan.opensToken_cons hrest
    have hreturn : c ≠ '\r' := by
      rintro rfl
      exact absurd hbreak (by decide)
    have hsettled : b.settled least (m.after (spaces n)).column = b.indent := if_neg (by omega)
    have hcol : (m.after (spaces n)).column ≠ b.indent := by
      simp only [Mark.after_spaces, Mark.advance]
      omega
    rw [blockFrom_cons hreturn, if_neg (by simp [hbreak]), if_neg (by simp),
      if_neg (fun h => hspace h.1), if_neg (fun h => htab h.1), hsettled, if_neg hcol]

/-- The column is known from the hint, or found at the first line. -/
lemma aligned_start (hs : s ≠ []) {start : Nat}
    (hstart : start = indent ∨ (start = 0 ∧ indentHint s = [])) :
    (Block.mk [] none [] false start 0).Aligned indent s := by
  rcases hstart with rfl | ⟨rfl, hhint⟩
  · exact .inl rfl
  · refine .inr ⟨rfl, rfl, fun c hc => ?_⟩
    cases s with
    | nil => exact absurd rfl hs
    | cons d s =>
      obtain rfl : d = c := by simpa using hc
      simpa [indentHint] using hhint

/-- Behind a line break a line starts. -/
lemma column_after_indented (hs : s ≠ []) (hfresh : endsFresh true s = true) :
    (m.after (indented indent true s)).column = 0 := by
  obtain ⟨t, c, rfl⟩ : ∃ t c, s = t ++ [c] := ⟨_, _, (List.dropLast_concat_getLast hs).symm⟩
  obtain ⟨u, hu⟩ : ∃ u, indented indent true (t ++ [c]) = u ++ [c] :=
    List.getLast?_eq_some_iff.mp (by simp [getLast?_indented])
  rw [endsFresh_concat] at hfresh
  rw [hu, Mark.after_append, Mark.after_cons_break _ hfresh]
  rfl

/-- The text of a block with the line break behind its last line. -/
lemma blockFrom_lines (since m : Mark) (start : Nat) (hs : s ≠ [])
    (hprint : ∀ c ∈ s, isPrintable c = true) (hleast : least ≤ indent) (hn : n < indent)
    (hrest : opensToken rest = true) (hcolumn : m.column = 0)
    (hstart : start = indent ∨ (start = 0 ∧ indentHint s = [])) :
    ∃ b, blockFrom false least since false ⟨[], none, [], false, start, 0⟩ m
        (indented indent true s ++ (ending s ++ (spaces n ++ rest))) =
      .ok (b, ⟨rest, m.after (indented indent true s ++ (ending s ++ spaces n))⟩) ∧
      b.result (chompingOf s) = s := by
  obtain ⟨b, -, hb, hwhole, hfirst, hmore, hread⟩ := blockFrom_text since m true
    hleast (by omega) hprint (aligned_start hs hstart) (by simp) (fun _ => hcolumn)
  replace hread := hread (ending s ++ (spaces n ++ rest))
  rw [show (!true) = false from rfl] at hread
  rw [hread, chompingOf_eq hs]
  have hindent : b.indent = indent := hb hs
  have htext : b.whole = s.reverse := by simpa [Block.whole] using hwhole
  cases hfresh : endsFresh true s with
  | false =>
    -- the last line gets a break, which is stripped again
    have hb' : b.text = s.reverse := by
      rwa [Block.whole, hfirst hfresh, hmore hs (.inl hfresh)] at htext
    refine ⟨{ b with firstBreak := some '\n', moreBreaks := [] }, ?_, ?_⟩
    · rw [ending, hfresh, if_neg (by simp), List.singleton_append,
        blockFrom_cons (by decide), if_pos isBreak_lineFeed]
      simp only [Bool.not_false, if_true]
      rw [blockFrom_end hrest rfl (by rw [hindent]; exact hn), Mark.after_append,
        List.singleton_append, Mark.after_cons_break _ isBreak_lineFeed]
      rfl
    · simp [Block.result, hb']
  | true =>
    refine ⟨b, ?_, ?_⟩
    · rw [ending, hfresh, if_pos rfl, List.nil_append, Bool.not_true,
        blockFrom_end hrest (column_after_indented hs hfresh) (by rw [hindent]; exact hn),
        List.nil_append, Mark.after_append]
    · -- of the breaks at the end, one is clipped to itself and more are kept
      cases hdrop : endsFresh true s.dropLast with
      | true => simpa [Block.result, Block.whole] using congrArg List.reverse htext
      | false =>
        rw [Block.whole, hmore hs (.inr hdrop), List.nil_append] at htext
        simpa [Block.result] using congrArg List.reverse htext

/-- A literal block is read back, in front of a token that stands further to the left. -/
theorem block_literal (h : LiteralText s) (hrest : opensToken rest = true) {outer : Nat}
    (hn : n < outer + 2) :
    block false (some outer) ⟨endLine (literal (outer + 2) s) ++ (spaces n ++ rest), m⟩ =
      .ok (.scalar s .quoted,
        ⟨rest, m.after (endLine (literal (outer + 2) s) ++ spaces n)⟩) := by
  have hbar : isBreak '|' = false := by decide
  obtain ⟨b, hread, hresult⟩ := blockFrom_lines m
    ((m.next.after (indentHint s ++ chompHint s)).newLine 1)
    (if (if indentHint s = [] then 0 else 2) = 0 then 0
      else outer + (if indentHint s = [] then 0 else 2))
    h.ne_nil h.printable (show outer + 1 ≤ outer + 2 by omega) hn hrest rfl (by split <;> simp_all)
  have hmark : m.after (endLine (literal (outer + 2) s) ++ spaces n) =
      ((m.next.after (indentHint s ++ chompHint s)).newLine 1).after
        (indented (outer + 2) true s ++ (ending s ++ spaces n)) := by
    rw [endLine_literal h.ne_nil, List.cons_append, Mark.after_cons_of_not_break _ hbar,
      ← Mark.after_cons_break _ isBreak_lineFeed, ← Mark.after_append]
    simp
  have hheader : blockHeader m ((Cursor.mk (endLine (literal (outer + 2) s) ++
      (spaces n ++ rest)) m).skip 1) = .ok (if indentHint s = [] then 0 else 2, chompingOf s,
        ⟨'\n' :: (indented (outer + 2) true s ++ (ending s ++ (spaces n ++ rest))),
          m.next.after (indentHint s ++ chompHint s)⟩) := by
    rw [← blockHeader_hints m s]
    simp [endLine_literal h.ne_nil, Cursor.skip, Mark.advance, Mark.next]
  have hline : restOfLine .blockScalar m
      ⟨'\n' :: (indented (outer + 2) true s ++ (ending s ++ (spaces n ++ rest))),
        m.next.after (indentHint s ++ chompHint s)⟩ =
      .ok ⟨indented (outer + 2) true s ++ (ending s ++ (spaces n ++ rest)),
        (m.next.after (indentHint s ++ chompHint s)).newLine 1⟩ := by
    simp [restOfLine, Cursor.skipWhile, Cursor.skipBreak, Mark.advance, isBlank, atLineEnd,
      isBreak_lineFeed]
  simp only [block, hheader, hmark, hline, bind, Except.bind, Option.getD_some, hread, hresult]
  rfl

end Sidecars.Yaml.Lexeme
