import Sidecars.Yaml.Written
import Sidecars.Proofs.Yaml.Token.Run
import Sidecars.Proofs.Yaml.Lexeme.Plain
import Sidecars.Proofs.Yaml.Lexeme.Quoted
import Sidecars.Proofs.Yaml.Lexeme.Literal

/-!
# Between the tokens of a written document

Written text is in block style, so what is fetched next depends on a column.  A state is described
by the tokens in the queue, the columns that are open and the text that is left.

* `Stands s tokens columns text n`: the state is at the start of a token in column `n`;
* `Ready s tokens columns text n`: the state comes to the start of such a token, where the
  collections that are deeper than `n` are closed;
* `Behind place s tokens columns text`: the state is behind the indicator of a node.

`Ready` counts the ends of collections as soon as they are certain, so that the tokens of a node
can be said without what comes behind it.
-/

namespace Sidecars.Yaml.Scan

/-- What waits in the queue, without places. -/
def kinds (s : Scan) : List TokenKind := s.queue.map (·.kind)

@[simp] lemma kinds_emit (s : Scan) (kind : TokenKind) (mark : Mark) :
    (s.emit kind mark).kinds = s.kinds ++ [kind] := by
  simp [kinds, emit]

/-- The state is in block style at the start of a token in column `n`, where a key may begin. -/
structure Stands (s : Scan) (tokens : List TokenKind) (columns : List Nat) (text : List Char)
    (n : Nat) : Prop where
  rest : s.cursor.rest = text
  column : s.mark.column = n
  keyAllowed : s.keyAllowed = true
  candidate : s.candidate = none
  outer : s.outer = []
  taken : s.taken = 0
  columns : s.columns = columns
  kinds : s.kinds = tokens

/-- The state comes to a token in column `n`; the collections that are deeper are taken to be
closed. -/
def Ready (s : Scan) (tokens : List TokenKind) (columns : List Nat) (text : List Char)
    (n : Nat) : Prop :=
  ∃ s' opened tokens', s.approach = .ok s' ∧ s.queue = s'.queue ∧
    s'.Stands tokens' (opened ++ columns) text n ∧ (∀ column ∈ opened, n < column) ∧
    tokens = tokens' ++ List.replicate opened.length .blockEnd

variable {s : Scan} {tokens : List TokenKind} {columns : List Nat} {text : List Char} {n : Nat}

/-- In front of a token, with no stale candidate, nothing is to be done. -/
lemma approach_eq_self (hopens : opensToken s.cursor.rest = true)
    (hfresh : ∀ k ∈ s.candidate :: s.outer, ∀ k' ∈ k, KeyCandidate.isStale k' s.mark = false) :
    s.approach = .ok s := by
  have hgap : toNextToken s.inFlow (s.cursor.rest.length + 1) s.keyAllowed s.cursor =
      (s.keyAllowed, s.cursor) := toNextToken_of_opens s.inFlow hopens
  have hkeep : ∀ k ∈ s.candidate :: s.outer, fresh s.mark k = k := by
    intro k hk
    cases k with
    | none => rfl
    | some k => simp [fresh, Option.filter_some, hfresh _ hk k rfl]
  have houter : s.outer.map (fresh s.mark) = s.outer :=
    (List.map_congr_left fun k hk => hkeep k (List.mem_cons_of_mem _ hk)).trans (List.map_id _)
  unfold approach
  rw [hgap]
  refine dropStale_eq_ok_iff.mpr ⟨fun k hk k' hk' hstale => ?_, ?_⟩
  · exact absurd hstale (by simp [hfresh k hk k' hk'])
  · show { s with outer := s.outer.map (fresh s.mark), candidate := fresh s.mark s.candidate } = s
    rw [houter, hkeep _ List.mem_cons_self]

lemma closeBlocks_of_le (h : ∀ column ∈ s.columns.head?, column ≤ n) :
    s.closeBlocks (some n) = s := by
  unfold closeBlocks
  split
  · rfl
  · obtain ⟨cursor, queue, taken, _ | ⟨c, columns⟩, candidate, outer, allowed⟩ := s
    · simp
    · have hc : ¬ n < c := by
        have := h c rfl
        omega
      simp [hc]

/-- A collection that is deeper than the next token is closed. -/
lemma Ready.close {column : Nat} (h : s.Ready tokens (column :: columns) text n)
    (hn : n < column) : s.Ready (tokens ++ [.blockEnd]) columns text n := by
  obtain ⟨s', opened, tokens', happroach, hqueue, hstands, hopened, rfl⟩ := h
  refine ⟨s', opened ++ [column], tokens', happroach, hqueue, by simpa using hstands, ?_, ?_⟩
  · intro c hc
    rcases List.mem_append.mp hc with hc | hc
    · exact hopened c hc
    · exact List.mem_singleton.mp hc ▸ hn
  · rw [List.length_append, List.length_singleton, List.replicate_succ', List.append_assoc]

/-- The collections that are deeper than a token are closed in front of it. -/
lemma Stands.closeBlocks {opened : List Nat} (h : s.Stands tokens (opened ++ columns) text n)
    (hopened : ∀ column ∈ opened, n < column) (hcolumns : ∀ column ∈ columns.head?, column ≤ n) :
    (s.closeBlocks (some n)).Stands (tokens ++ List.replicate opened.length .blockEnd) columns text
      n := by
  have hflow : s.inFlow = false := by simp [inFlow, h.outer]
  have hstop : columns.takeWhile (fun c => decide (n < c)) = [] ∧
      columns.dropWhile (fun c => decide (n < c)) = columns := by
    cases columns with
    | nil => exact ⟨rfl, rfl⟩
    | cons c columns =>
      have : ¬ n < c := by
        have := hcolumns c rfl
        omega
      simp [this]
  have hall : ∀ c ∈ opened, decide (n < c) = true := fun c hc => by simpa using hopened c hc
  unfold Scan.closeBlocks
  rw [if_neg (by simp [hflow])]
  refine ⟨h.rest, h.column, h.keyAllowed, h.candidate, h.outer, h.taken, ?_, ?_⟩
  · simp [h.columns, List.dropWhile_append_of_pos hall, hstop]
  · have hkinds : s.queue.map (·.kind) = tokens := h.kinds
    simp [Scan.kinds, hkinds, h.columns, List.takeWhile_append_of_pos hall, hstop,
      List.map_const']

/-- A token in no lesser column than the innermost collection is fetched from its start. -/
lemma Ready.fetch (h : s.Ready tokens columns text n)
    (hcolumns : ∀ column ∈ columns.head?, column ≤ n) :
    ∃ s' : Scan, s'.Stands tokens columns text n ∧ s.fetch = s'.dispatch ∧
      s.queue.length ≤ s'.queue.length := by
  obtain ⟨s', opened, tokens', happroach, hqueue, hstands, hopened, rfl⟩ := h
  refine ⟨s'.closeBlocks (some n), hstands.closeBlocks hopened hcolumns, ?_, ?_⟩
  · rw [Scan.fetch, happroach, Except.bind, hstands.column]
  · rw [hqueue]
    unfold Scan.closeBlocks
    split <;> simp

/-- How a state becomes ready: across a gap, with no candidate but such as are stale behind it. -/
lemma ready_of_gap {m : Mark} (houter : s.outer = []) (htaken : s.taken = 0)
    (hgap : toNextToken false (s.cursor.rest.length + 1) s.keyAllowed s.cursor =
      (true, ⟨text, m⟩)) (hn : m.column = n)
    (hcandidate : ∀ k ∈ s.candidate, k.required = false ∧ k.mark.line < m.line) :
    s.Ready s.kinds s.columns text n := by
  have hflow : s.inFlow = false := by simp [inFlow, houter]
  refine ⟨{ s with keyAllowed := true, cursor := ⟨text, m⟩, candidate := none }, [], s.kinds,
    ?_, rfl, ⟨rfl, hn, rfl, rfl, houter, htaken, rfl, rfl⟩, by simp, by simp⟩
  unfold approach
  rw [hflow, hgap]
  refine dropStale_eq_ok_iff.mpr ⟨fun k hk => ?_, ?_⟩
  · intro k' hk' _
    rcases List.mem_cons.mp hk with rfl | hk
    · exact (hcandidate k' hk').1
    · simp [houter] at hk
  · have hstale : fresh m s.candidate = none := by
      cases hc : s.candidate with
      | none => rfl
      | some k =>
        have hline := (hcandidate k (by simp [hc])).2
        simp [fresh, Option.filter_some, KeyCandidate.isStale, hline]
    simp only [houter, List.map_nil, mark]
    rw [hstale]

/-! ## Behind an indicator -/

/-- The state at another place of the text. -/
def moved (s : Scan) (c : Cursor) : Scan := { s with cursor := c }

@[simp] lemma moved_cursor (s : Scan) (c : Cursor) : (s.moved c).cursor = c := rfl

@[simp] lemma moved_mark (s : Scan) (c : Cursor) : (s.moved c).mark = c.mark := rfl

@[simp] lemma moved_queue (s : Scan) (c : Cursor) : (s.moved c).queue = s.queue := rfl

@[simp] lemma moved_columns (s : Scan) (c : Cursor) : (s.moved c).columns = s.columns := rfl

@[simp] lemma moved_candidate (s : Scan) (c : Cursor) : (s.moved c).candidate = s.candidate := rfl

@[simp] lemma moved_outer (s : Scan) (c : Cursor) : (s.moved c).outer = s.outer := rfl

@[simp] lemma moved_inFlow (s : Scan) (c : Cursor) : (s.moved c).inFlow = s.inFlow := rfl

/-- The state is behind the indicator of a node at a place, with `text` left. -/
structure Behind (p : Place) (s : Scan) (tokens : List TokenKind) (columns : List Nat)
    (text : List Char) : Prop where
  rest : s.cursor.rest = text
  column : p.indent < s.mark.column
  /-- A collection may start on the line only right behind the indicator. -/
  compact : p.compact = true → s.mark.column = p.indent + 1
  keyAllowed : s.keyAllowed = p.compact
  candidate : s.candidate = none
  outer : s.outer = []
  taken : s.taken = 0
  columns : s.columns = p.indent :: columns
  kinds : s.kinds = tokens

variable {p : Place}

/-- In front of the first member of a collection. -/
lemma Behind.lead (h : Behind p s tokens columns (p.lead n ++ text))
    (hn : p.compact = true → n = p.indent + 2) (htext : opensToken text = true) :
    s.Ready tokens (p.indent :: columns) text n := by
  rw [← h.kinds, ← h.columns]
  obtain ⟨⟨rest, m⟩, queue, taken, cols, candidate, outer, allowed⟩ := s
  obtain ⟨hrest, hcolumn, hcompact, hallowed, hcandidate, houter, htaken, hcolumns, hkinds⟩ := h
  simp only at hrest hallowed hcandidate houter htaken hcolumns
  subst hrest
  cases hp : p.compact with
  | true =>
    have hcol : m.column = p.indent + 1 := hcompact hp
    refine ready_of_gap (m := m.after (spaces 1)) houter htaken ?_ ?_ (by simp [hcandidate])
    · simp only [Place.lead, hp, if_true, hallowed]
      exact toNextToken_spaces (n := 1) false htext
    · rw [Mark.after_spaces, hn hp]
      simp [Mark.advance, hcol]
  | false =>
    refine ready_of_gap (m := m.after ('\n' :: spaces n)) houter htaken ?_ ?_ (by simp [hcandidate])
    · simp only [Place.lead, hp, Bool.false_eq_true, if_false]
      exact toNextToken_line htext
    · exact Mark.column_after_margin m isBreak_lineFeed [] n

/-- A node on the line of its indicator is fetched from its start. -/
lemma Behind.fetch (h : Behind p s tokens columns (' ' :: text)) (htext : opensToken text = true) :
    s.fetch = (s.moved ⟨text, s.mark.next⟩).dispatch := by
  have hflow : s.inFlow = false := by simp [inFlow, h.outer]
  have hcursor : s.cursor = ⟨spaces 1 ++ text, s.mark⟩ :=
    congrArg (Cursor.mk · s.mark) h.rest
  have hgap : toNextToken false (s.cursor.rest.length + 1) s.keyAllowed s.cursor =
      (s.keyAllowed, ⟨text, s.mark.next⟩) := by
    rw [hcursor]
    exact toNextToken_spaces (n := 1) false htext
  have happroach : s.approach = .ok (s.moved ⟨text, s.mark.next⟩) := by
    unfold approach
    rw [hflow, hgap]
    refine dropStale_eq_ok_iff.mpr ⟨fun k hk => ?_, ?_⟩
    · rcases List.mem_cons.mp hk with rfl | hk
      · simp [Spared, h.candidate]
      · simp [h.outer] at hk
    · simp [fresh, h.candidate, h.outer, moved]
  rw [Scan.fetch, happroach, Except.bind]
  congr 1
  refine closeBlocks_of_le fun c hc => ?_
  have hcol : (s.moved ⟨text, s.mark.next⟩).mark.column = s.mark.column + 1 := rfl
  have := h.column
  obtain rfl : p.indent = c := by simpa [h.columns] using hc
  omega

end Sidecars.Yaml.Scan
