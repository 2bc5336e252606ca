import Sidecars.Proofs.Yaml.Token.Ready

/-!
# Fetching scalars

A scalar is fetched by the reader that its first character calls for, whatever its style.

* `Behind.fetches_scalar` is a scalar that is a value: it ends its line, and the state is ready for
  the next token;
* `Stands.fetches_key` is a scalar that is a key on the line of its value: the key token goes in
  front of it when the colon is reached.
-/

namespace Sidecars.Yaml.Scan

variable {s : Scan} {tokens : List TokenKind} {columns : List Nat} {n : Nat} {p : Place}
  {w tail rest : List Char} {x : Char}

/-! ## The reader of a scalar -/

lemma dispatch_single (hrest : s.cursor.rest = Quoting.single n w ++ tail) :
    s.dispatch = s.fetchContent (Lexeme.quoted true) := by
  rw [dispatch, hrest]
  simp [Quoting.single, fetchFrom, Lexeme.isDocumentIndicator]

lemma dispatch_double (hrest : s.cursor.rest = Quoting.double w ++ tail) :
    s.dispatch = s.fetchContent (Lexeme.quoted false) := by
  rw [dispatch, hrest]
  simp [Quoting.double, fetchFrom, Lexeme.isDocumentIndicator]

lemma dispatch_literal (hflow : s.inFlow = false) (hw : w ≠ [])
    (hrest : s.cursor.rest = Quoting.endLine (Quoting.literal n w) ++ tail) :
    s.dispatch = s.fetchBlock false := by
  rw [dispatch, hrest, Lexeme.endLine_literal hw]
  simp [fetchFrom, Lexeme.isDocumentIndicator, hflow]

/-- A plain text starts with no indicator. -/
lemma dispatch_plain (h : PlainText w) (hflow : s.inFlow = false)
    (hrest : s.cursor.rest = w ++ tail)
    (hdocument : s.mark.column = 0 → Lexeme.isDocumentIndicator (w ++ tail) = false) :
    s.dispatch = s.fetchPlain := by
  obtain ⟨x, w, rfl⟩ := List.exists_cons_of_ne_nil h.ne_nil
  rw [List.cons_append] at hrest hdocument
  have hopens := h.opens
  simp only [Traits.opens, Bool.or_eq_false_iff, Bool.and_eq_false_iff, decide_eq_false_iff_not]
    at hopens
  obtain ⟨hopening, hwhite⟩ := hopens
  simp only [Traits.isOpeningIndicator, Bool.or_eq_false_iff, decide_eq_false_iff_not] at hopening
  have hblank : isWhite x = false := by
    have hspace : x ≠ ' ' := by simpa using h.first
    have htab := ne_tab_of_isPrintable (h.printable x (by simp))
    simp [isWhite, isBlank, hspace, htab, h.unbroken x (by simp)]
  -- an indicator that needs white space behind it has none
  have hnext : (x = '?' ∨ x = ':') ∨ x = '-' → atWhite (w ++ tail) = false ∧
      (w.head?.or tail.head?).any isBlank = false := by
    intro hx
    have hfollows : Traits.whiteFollows w = false := by
      rcases hwhite with hne | hfollows
      · tauto
      · exact hfollows
    cases w with
    | nil => simp [Traits.whiteFollows] at hfollows
    | cons d w =>
      simp only [Traits.whiteFollows, isWhite, Bool.or_eq_false_iff] at hfollows
      simp [atWhite, isWhite, hfollows]
  have hdoc : (decide (s.mark.column = 0) && Lexeme.isDocumentIndicator (x :: (w ++ tail))) =
      false := by
    by_cases hcol : s.mark.column = 0
    · simp [hdocument hcol]
    · simp [hcol]
  rw [dispatch, hrest]
  unfold fetchFrom
  simp only [hdoc]
  by_cases hminus : x = '-'
  · subst hminus
    simp [hnext, hflow, startsPlain]
  · by_cases hquestion : x = '?'
    · subst hquestion
      simp [hnext, hflow, startsPlain]
    · by_cases hcolon : x = ':'
      · subst hcolon
        simp [hnext, hflow, startsPlain]
      · simp [startsPlain, hopening, hflow, hminus, hquestion, hcolon, hblank]

/-! ## The state behind a scalar -/

/-- The state behind a token of the text, with the candidate for a key that is left. -/
def content (s : Scan) (kind : TokenKind) (c : Cursor) (allowed : Bool)
    (k : Option KeyCandidate) : Scan :=
  { s.emit kind s.mark with cursor := c, keyAllowed := allowed, candidate := k }

variable {kind : TokenKind} {c : Cursor} {allowed : Bool} {k : Option KeyCandidate} {m : Mark}

/-- The candidate for a key at the token that comes next. -/
def noted (s : Scan) : Option KeyCandidate := if s.keyAllowed then some s.nextCandidate else none

lemma eq_of_mem_noted {k : KeyCandidate} (hk : k ∈ s.noted) : k = s.nextCandidate := by
  unfold noted at hk
  split at hk
  · exact (Option.some.inj hk).symm
  · simp at hk

lemma noteCandidate_of_none (h : s.candidate = none) :
    s.noteCandidate = .ok { s with candidate := s.noted } := by
  rw [noteCandidate_eq, dropCandidate_eq, h]
  obtain ⟨_, _, _, _, _, _, _ | _⟩ := s
  · exact congrArg (fun k => Except.ok (Scan.mk _ _ _ _ k _ _)) h
  · rfl

lemma fetchContent_eq {read : Cursor → Except Fault (TokenKind × Cursor)}
    (h : s.candidate = none) (hread : read s.cursor = .ok (kind, c)) :
    s.fetchContent read = .ok (s.content kind c false s.noted) := by
  simp only [fetchContent, noteCandidate_of_none h, hread, Bind.bind, Except.bind]
  rfl

lemma fetchPlain_eq (h : s.candidate = none)
    (hread : Lexeme.plain s.inFlow (s.columns.head?.elim 0 (· + 1)) s.cursor =
      .ok (kind, allowed, c)) :
    s.fetchPlain = .ok (s.content kind c allowed s.noted) := by
  simp only [inFlow] at hread
  simp only [fetchPlain, noteCandidate_of_none h, Bind.bind, Except.bind, inFlow]
  cases hcolumns : s.columns <;> rw [hcolumns] at hread <;>
    simp only [List.head?_nil, List.head?_cons, Option.elim] at hread <;> simp only [hread] <;>
    simp [content, emit, mark, hcolumns, pure, Except.pure]

lemma fetchBlock_eq {folded : Bool} (h : s.candidate = none)
    (hread : Lexeme.block folded s.columns.head? s.cursor = .ok (kind, c)) :
    s.fetchBlock folded = .ok (s.content kind c true none) := by
  simp only [fetchBlock, dropCandidate_eq, h, Bind.bind, Except.bind, hread]
  rfl

/-! ## A scalar as a value -/

/-- Behind a node that ends its line, the candidate at its start is stale. -/
lemma Behind.ready {text : List Char} {s' : Scan} {kinds : List TokenKind}
    (h : Behind p s tokens columns (' ' :: text)) (hqueue : s'.kinds = tokens ++ kinds)
    (hcolumns : s'.columns = s.columns) (houter : s'.outer = s.outer) (htaken : s'.taken = s.taken)
    (hk : ∀ k ∈ s'.candidate, k = (s.moved ⟨text, s.mark.next⟩).nextCandidate)
    (hgap : toNextToken false (s'.cursor.rest.length + 1) s'.keyAllowed s'.cursor =
      (true, ⟨rest, m⟩)) (hn : m.column = n) (hline : s.mark.line < m.line) :
    s'.Ready (tokens ++ kinds) (p.indent :: columns) rest n := by
  rw [← hqueue, ← h.columns, ← hcolumns]
  refine ready_of_gap (houter.trans h.outer) (htaken.trans h.taken) hgap hn fun k hk' => ?_
  obtain rfl := hk k hk'
  -- the node stands to the right of the collection around it
  have hcolumn : p.indent < s.cursor.mark.column := h.column
  have hne : p.indent ≠ s.cursor.mark.next.column := by
    simp only [Mark.next]
    omega
  refine ⟨?_, hline⟩
  simp [nextCandidate, h.columns, mark, hne]

/-- A node of one token that ends its line. -/
lemma Behind.fetches_content {text : List Char} (h : Behind p s tokens columns (' ' :: text))
    (htext : opensToken text = true)
    (hread : ∀ s₁ : Scan, s₁.cursor = ⟨text, s.mark.next⟩ → s₁.columns = p.indent :: columns →
      s₁.inFlow = false → s₁.candidate = none →
        ∃ k, (k = none ∨ k = s₁.noted) ∧ s₁.dispatch = .ok (s₁.content kind c allowed k))
    (hgap : toNextToken false (c.rest.length + 1) allowed c = (true, ⟨rest, m⟩))
    (hn : m.column = n) (hline : s.mark.line < m.line) :
    ∃ s' : Scan, Fetches s s' ∧
      s'.Ready (tokens ++ [kind]) (p.indent :: columns) rest n := by
  obtain ⟨k, hk, hdispatch⟩ := hread (s.moved ⟨text, s.mark.next⟩) rfl h.columns
    (by simp [inFlow, h.outer]) h.candidate
  refine ⟨_, ⟨(h.fetch htext).trans hdispatch, by simp [content, emit]⟩, ?_⟩
  refine h.ready ?_ rfl rfl rfl (fun k' hk' => ?_) hgap hn hline
  · have hqueue : s.queue.map (·.kind) = tokens := h.kinds
    simp [Scan.kinds, content, emit, hqueue]
  · rcases hk with rfl | rfl
    · simp [content] at hk'
    · exact eq_of_mem_noted hk'

/-- A text that ends with no line break gets one. -/
lemma endLine_concat (s : List Char) {c : Char} (hc : isBreak c = false) :
    Quoting.endLine (s ++ [c]) = s ++ [c] ++ ['\n'] := by
  simp [Quoting.endLine, hc]

/-- A line that is ended ends with a line break. -/
lemma exists_break_endLine (s : List Char) :
    ∃ t b, isBreak b = true ∧ Quoting.endLine s = t ++ [b] := by
  unfold Quoting.endLine
  split
  · rename_i hbreak
    cases hlast : s.getLast? with
    | none => simp [hlast] at hbreak
    | some b =>
      obtain ⟨t, rfl⟩ := List.getLast?_eq_some_iff.mp hlast
      exact ⟨t, b, by simpa using hbreak, rfl⟩
  · exact ⟨s, '\n', isBreak_lineFeed, rfl⟩

lemma endLine_plain {t : List Char} (h : PlainText t) : Quoting.endLine t = t ++ ['\n'] := by
  obtain ⟨t, c, rfl⟩ := List.eq_nil_or_concat t |>.resolve_left h.ne_nil
  rw [List.concat_eq_append] at h ⊢
  exact endLine_concat t (h.unbroken c (by simp))

lemma endLine_single (n : Nat) (t : List Char) :
    Quoting.endLine (Quoting.write .single n t) = Quoting.single n t ++ ['\n'] :=
  endLine_concat _ (c := '\'') (by decide)

lemma endLine_double (n : Nat) (t : List Char) :
    Quoting.endLine (Quoting.write .double n t) = Quoting.double t ++ ['\n'] :=
  endLine_concat _ (c := '"') (by decide)

lemma opensToken_plain {t : List Char} (h : PlainText t) (tail : List Char) :
    opensToken (t ++ tail) = true := by
  obtain ⟨x, w, rfl⟩ := List.exists_cons_of_ne_nil h.ne_nil
  have hprintable := h.printable x (by simp)
  have hspace : x ≠ ' ' := by simpa using h.first
  have hhash : x ≠ '#' := by
    have := h.opens
    simp only [Traits.opens, Traits.isOpeningIndicator, Bool.or_eq_false_iff,
      decide_eq_false_iff_not] at this
    tauto
  simp [opensToken, isWhite, isBlank, hspace, hhash, ne_tab_of_isPrintable hprintable,
    ne_byteOrderMark_of_isPrintable hprintable, h.unbroken x (by simp)]

lemma opensToken_single (n : Nat) (t tail : List Char) :
    opensToken (Quoting.single n t ++ tail) = true := rfl

lemma opensToken_double (t tail : List Char) :
    opensToken (Quoting.double t ++ tail) = true := rfl

/-- A scalar between quotes ends its line with a line feed of its own. -/
lemma Behind.fetches_quoted {single : Bool} {t : List Char}
    (h : Behind p s tokens columns (' ' :: (w ++ '\n' :: (spaces n ++ rest))))
    (hopens : opensToken (w ++ '\n' :: (spaces n ++ rest)) = true)
    (hdispatch : ∀ s₁ : Scan, s₁.cursor.rest = w ++ '\n' :: (spaces n ++ rest) →
      s₁.dispatch = s₁.fetchContent (Lexeme.quoted single))
    (hread : ∀ m, Lexeme.quoted single ⟨w ++ '\n' :: (spaces n ++ rest), m⟩ =
      .ok (.scalar t .quoted, ⟨'\n' :: (spaces n ++ rest), m.after w⟩))
    (hrest : opensToken rest = true) :
    ∃ s' : Scan, Fetches s s' ∧
      s'.Ready (tokens ++ [.scalar t .quoted]) (p.indent :: columns) rest n := by
  have hover : (s.mark.next.after w).after ('\n' :: spaces n) =
      s.mark.next.after (w ++ '\n' :: spaces n) := (Mark.after_append _ _ _).symm
  have hgap : toNextToken false (('\n' :: (spaces n ++ rest)).length + 1) false
      ⟨'\n' :: (spaces n ++ rest), s.mark.next.after w⟩ =
        (true, ⟨rest, s.mark.next.after (w ++ '\n' :: spaces n)⟩) := by
    rw [← hover]
    exact toNextToken_line hrest
  refine h.fetches_content hopens (fun s₁ hcursor _ _ hnone => ?_) hgap
    (Mark.column_after_margin _ isBreak_lineFeed w n)
    (Mark.line_lt_after s.mark.next isBreak_lineFeed w (spaces n))
  refine ⟨_, .inr rfl, (hdispatch s₁ (by rw [hcursor])).trans (fetchContent_eq hnone ?_)⟩
  rw [hcursor]
  exact hread _

/-- A plain text goes on over the end of its line, until the next token is no part of it. -/
lemma Behind.fetches_plain {t : List Char}
    (h : Behind p s tokens columns (' ' :: (t ++ '\n' :: (spaces n ++ rest)))) (ht : PlainText t)
    (hn : n ≤ p.indent) (hrest : opensToken rest = true) :
    ∃ s' : Scan, Fetches s s' ∧
      s'.Ready (tokens ++ [.scalar t .plain]) (p.indent :: columns) rest n := by
  have hcolumn := h.column
  refine h.fetches_content (opensToken_plain ht _) (fun s₁ hcursor hcolumns hflow hnone => ?_)
    (toNextToken_of_opens false hrest) (Mark.column_after_margin _ isBreak_lineFeed _ n)
    (Mark.line_lt_after s.mark.next isBreak_lineFeed t (spaces n))
  refine ⟨_, .inr rfl, (dispatch_plain ht hflow (by rw [hcursor]) fun hcol => ?_).trans
    (fetchPlain_eq hnone ?_)⟩
  · -- a value has its key in front of it, so it is no document indicator
    simp [mark, hcursor, Mark.next] at hcol
  · have hread := Lexeme.plain_before_line ht (m := s.mark.next)
      (Nat.succ_le_succ (Nat.le_succ_of_le (Nat.le_of_lt hcolumn))) (Nat.lt_succ_of_le hn) hrest
    simpa [hflow, hcolumns, hcursor] using hread

/-- A block of lines ends where a line is less indented than its own. -/
lemma Behind.fetches_literal {t : List Char}
    (h : Behind p s tokens columns (' ' :: (Quoting.endLine (Quoting.literal (p.indent + 2) t) ++
      (spaces n ++ rest)))) (ht : LiteralText t) (hn : n ≤ p.indent)
    (hrest : opensToken rest = true) :
    ∃ s' : Scan, Fetches s s' ∧
      s'.Ready (tokens ++ [.scalar t .quoted]) (p.indent :: columns) rest n := by
  have hopens : opensToken (Quoting.endLine (Quoting.literal (p.indent + 2) t) ++
      (spaces n ++ rest)) = true := by
    rw [Lexeme.endLine_literal ht.ne_nil]
    rfl
  obtain ⟨w, b, hb, hended⟩ := exists_break_endLine (Quoting.literal (p.indent + 2) t)
  have hline : Quoting.endLine (Quoting.literal (p.indent + 2) t) ++ spaces n =
      w ++ b :: spaces n := by
    rw [hended, List.append_assoc, List.singleton_append]
  refine h.fetches_content hopens (fun s₁ hcursor hcolumns hflow hnone => ?_)
    (toNextToken_of_opens false hrest) (Mark.column_after_margin s.mark.next hb w n)
    (Mark.line_lt_after s.mark.next hb w (spaces n))
  refine ⟨none, .inl rfl, (dispatch_literal hflow ht.ne_nil (by rw [hcursor])).trans
    (fetchBlock_eq hnone ?_)⟩
  rw [hcursor, hcolumns, ← hline]
  exact Lexeme.block_literal ht hrest (by omega)

/-- A scalar that is a value is read back, and ends its line. -/
theorem Behind.fetches_scalar {t : List Char} {wished : Style}
    (h : Behind p s tokens columns (scalarLine p.indent t wished ++ (spaces n ++ rest)))
    (hmeets : wished.Meets t) (hempty : t = [] → wished ≠ .plain) (hn : n ≤ p.indent)
    (hrest : opensToken rest = true) :
    ∃ s' : Scan, Fetches s s' ∧
      s'.Ready (tokens ++ [.scalar t (wished.form t)]) (p.indent :: columns) rest n := by
  have hquoted : Style.choose wished false t ≠ .plain → wished.form t = .quoted :=
    fun hne => if_neg hne
  rw [scalarLine, List.cons_append] at h
  cases hstyle : Style.choose wished false t with
  | plain =>
    have hplain : PlainText t := by
      refine Style.plainText_of_choose (fun ht => ?_) hstyle
      exact hempty ht (Style.choose_eq_plain_iff.mp hstyle).1
    rw [hstyle, Quoting.write, endLine_plain hplain, List.append_assoc] at h
    rw [show wished.form t = .plain from if_pos hstyle]
    exact h.fetches_plain hplain hn hrest
  | single =>
    have hsingle := Style.singleText_of_choose hmeets hstyle
    rw [hstyle, endLine_single, List.append_assoc] at h
    rw [hquoted (by simp [hstyle])]
    exact h.fetches_quoted (opensToken_single _ t _) (fun _ => dispatch_single)
      (fun _ => Lexeme.quoted_single (by omega) hsingle (by simp)) hrest
  | double =>
    rw [hstyle, endLine_double, List.append_assoc] at h
    rw [hquoted (by simp [hstyle])]
    exact h.fetches_quoted (opensToken_double t _) (fun _ => dispatch_double)
      (fun _ => Lexeme.quoted_double t _) hrest
  | literal =>
    rw [hstyle, Quoting.write] at h
    rw [hquoted (by simp [hstyle])]
    exact h.fetches_literal (Style.literalText_of_choose hstyle) hn hrest

end Sidecars.Yaml.Scan
