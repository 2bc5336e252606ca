import Sidecars.Proofs.Yaml.Portable
import Sidecars.Proofs.Yaml.Token.Key

/-!
# Fetching a written value

-/

namespace Sidecars.Yaml

namespace Scan

variable {s : Scan} {tokens : List TokenKind} {columns : List Nat} {n : Nat} {p : Place}
  {rest tail : List Char} {k : Option KeyCandidate}

/-! ## Empty collections -/

/-- The state between brackets with nothing in them yet. -/
def bracketed (s : Scan) (kind : TokenKind) (k : Option KeyCandidate) : Scan :=
  { s.indicator kind with outer := k :: s.outer, candidate := none, keyAllowed := true }

lemma fetchFlowStart_eq (kind : TokenKind) (h : s.candidate = none) :
    s.fetchFlowStart kind = .ok (s.bracketed kind s.noted) := by
  simp only [fetchFlowStart, noteCandidate_of_none h, Bind.bind, Except.bind]
  rfl

/-- A closing bracket right behind its opening bracket. -/
lemma fetch_bracketed {x : Char} {start stop : TokenKind}
    (hrest : s.cursor.rest.drop 1 = x :: tail) (hx : opensToken (x :: tail) = true)
    (houter : s.outer = []) (hk : ∀ k' ∈ k, k' = s.nextCandidate)
    (hdispatch : ∀ s₁ : Scan, s₁.cursor.rest = x :: tail →
      s₁.dispatch = s₁.fetchFlowEnd stop) :
    (s.bracketed start k).fetch = .ok { s with
      queue := s.queue ++ [⟨start, s.mark⟩, ⟨stop, s.mark.next⟩]
      cursor := ⟨tail, s.mark.next.next⟩
      candidate := k
      keyAllowed := false } := by
  have hcursor : (s.bracketed start k).cursor = ⟨x :: tail, s.mark.next⟩ := by
    rw [← hrest]
    rfl
  have hflow : (s.bracketed start k).inFlow = true := by simp [bracketed, inFlow]
  have happroach : (s.bracketed start k).approach = .ok (s.bracketed start k) := by
    refine approach_eq_self (by rw [hcursor]; exact hx) fun k' hk' k'' hk'' => ?_
    -- the opening bracket is one character away
    obtain rfl : k'' = s.nextCandidate := by
      have hmem : k' = none ∨ k' = k := by simpa [bracketed, indicator, emit, houter] using hk'
      rcases hmem with rfl | rfl
      · simp at hk''
      · exact hk k'' hk''
    have hmark : (s.bracketed start k).mark = s.mark.next := by
      rw [mark, hcursor]
    rw [hmark]
    simp [KeyCandidate.isStale, nextCandidate, Mark.next]
  have hclose (column : Option Nat) :
      (s.bracketed start k).closeBlocks column = s.bracketed start k := by
    rw [Scan.closeBlocks, if_pos hflow]
  have hmark : (s.bracketed start k).mark = s.mark.next := by rw [mark, hcursor]
  rw [Scan.fetch, happroach, Except.bind, hclose, hdispatch _ (by rw [hcursor])]
  have hend : (s.bracketed start k).fetchFlowEnd stop = .ok { s with
      queue := s.queue ++ [⟨start, s.mark⟩] ++ [⟨stop, (s.bracketed start k).mark⟩]
      cursor := (s.bracketed start k).cursor.skip 1
      candidate := k
      keyAllowed := false } := rfl
  rw [hend, hmark, hcursor]
  simp [Cursor.skip, Mark.advance, Mark.next]

/-- An empty collection is fetched bracket by bracket, and ends its line. -/
lemma Behind.fetches_brackets {a b : Char} {start stop : TokenKind}
    (h : Behind p s tokens columns (' ' :: a :: b :: '\n' :: (spaces n ++ rest)))
    (ha : opensToken (a :: b :: '\n' :: (spaces n ++ rest)) = true)
    (hb : opensToken (b :: '\n' :: (spaces n ++ rest)) = true)
    (hstart : ∀ s₁ : Scan, s₁.cursor.rest = a :: b :: '\n' :: (spaces n ++ rest) →
      s₁.dispatch = s₁.fetchFlowStart start)
    (hstop : ∀ s₁ : Scan, s₁.cursor.rest = b :: '\n' :: (spaces n ++ rest) →
      s₁.dispatch = s₁.fetchFlowEnd stop)
    (hrest : opensToken rest = true) :
    ∃ s' : Scan, Relation.ReflTransGen Fetches s s' ∧
      s'.Ready (tokens ++ [start, stop]) (p.indent :: columns) rest n := by
  generalize hs₁ : s.moved ⟨a :: b :: '\n' :: (spaces n ++ rest), s.mark.next⟩ = s₁
  have hfetch : s.fetch = .ok (s₁.bracketed start s₁.noted) := by
    rw [h.fetch ha, hs₁, hstart s₁ (by rw [← hs₁]; rfl),
      fetchFlowStart_eq start (by rw [← hs₁]; exact h.candidate)]
  have houter : s₁.outer = [] := by rw [← hs₁]; exact h.outer
  have hbehind : s₁.cursor.rest.drop 1 = b :: '\n' :: (spaces n ++ rest) := by rw [← hs₁]; rfl
  have hclose : (s₁.bracketed start s₁.noted).fetch = .ok _ :=
    fetch_bracketed hbehind hb houter (fun _ => eq_of_mem_noted) hstop
  have hqueue : s₁.queue = s.queue := by rw [← hs₁]; rfl
  have hmark : s₁.mark = s.mark.next := by rw [← hs₁]; rfl
  -- the candidate at the first bracket is stale on the next line
  refine ⟨_, .tail (.single ⟨hfetch, ?_⟩) ⟨hclose, ?_⟩, ?_⟩
  · simp [bracketed, indicator, emit, hqueue]
  · simp [bracketed, indicator, emit]
  · refine h.ready ?_ ?_ ?_ ?_ (fun k hk => ?_) (toNextToken_line hrest)
      (Mark.column_after_margin _ isBreak_lineFeed [] n) ?_
    · have hkinds : s.queue.map (·.kind) = tokens := h.kinds
      simp [Scan.kinds, hqueue, hkinds]
    · rw [← hs₁]
      rfl
    · rw [← hs₁]
      rfl
    · rw [← hs₁]
      rfl
    · rw [hs₁]
      exact eq_of_mem_noted hk
    · rw [hmark]
      exact Mark.line_lt_after s.mark.next.next.next isBreak_lineFeed [] (spaces n)

/-! ## The members of a collection -/

/-- The text of a node goes on with white space behind its indicator. -/
lemma atWhite_written (v : Value) (p : Place) (tail : List Char) :
    atWhite (v.written p ++ tail) = true := by
  have hlead (n : Nat) (text : List Char) : atWhite (p.lead n ++ text ++ tail) = true := by
    unfold Place.lead
    split <;> rfl
  match v with
  | .sequence [] | .mapping [] | .null | .bool true | .bool false | .int _ | .float _ | .string _
  | .tagged _ _ => rfl
  | .sequence (x :: xs) =>
    rw [Value.written, writtenItems_cons]
    exact hlead _ _
  | .mapping (e :: es) =>
    rw [Value.written, writtenEntries_cons]
    exact hlead _ _

/-- A value is read back wherever it stands: in front of a token that is no deeper than the
collection around the value. -/
def ReadsBack (v : Value) : Prop :=
  ∀ ⦃p : Place⦄ ⦃s : Scan⦄ ⦃tokens : List TokenKind⦄ ⦃columns : List Nat⦄ ⦃n : Nat⦄
    ⦃rest : List Char⦄, Behind p s tokens columns (v.written p ++ (spaces n ++ rest)) →
    n ≤ p.indent → opensToken rest = true →
      ∃ s' : Scan, Relation.ReflTransGen Fetches s s' ∧
        s'.Ready (tokens ++ v.tokens p.flush) (p.indent :: columns) rest n

lemma readsBack_of_scalar? {v : Value} {t : List Char} {wished : Style}
    (h : v.scalar? = some (t, wished)) (hsound : Sound t wished) : ReadsBack v := by
  intro p s tokens columns n rest hbehind hn hrest
  rw [written_of_scalar? h] at hbehind
  obtain ⟨s', hfetches, hready⟩ := hbehind.fetches_scalar hsound.meets hsound.empty hn hrest
  exact ⟨s', .single hfetches, by rwa [tokens_of_scalar? h]⟩

variable {first : Bool} {indent : Nat}

/-- The items of a sequence, one after the other. -/
lemma Member.fetches_items {x : Value} {xs : List Value} (hreads : ∀ y ∈ x :: xs, ReadsBack y)
    (h : Member first s tokens columns (writtenItems indent [] (x :: xs) ++ (spaces n ++ rest))
      indent) (hn : n ≤ indent) (hrest : opensToken rest = true) :
    ∃ s' : Scan, Relation.ReflTransGen Fetches s s' ∧
      s'.Ready (tokens ++ (opening first .blockSequenceStart ++ itemTokens (x :: xs)))
        (indent :: columns) rest n := by
  induction xs generalizing x first s tokens with
  | nil =>
    simp only [writtenItems, List.nil_append, List.append_nil, List.cons_append] at h
    obtain ⟨s₁, hentry, hbehind⟩ := h.fetches_entry (atWhite_written x _ _)
    obtain ⟨s₂, hvalue, hready⟩ := hreads x (by simp) hbehind hn hrest
    exact ⟨s₂, .head hentry hvalue, by simpa [itemTokens, Place.flush] using hready⟩
  | cons y ys ih =>
    rw [writtenItems, List.nil_append, writtenItems_cons] at h
    simp only [List.cons_append, List.append_assoc] at h
    obtain ⟨s₁, hentry, hbehind⟩ := h.fetches_entry (atWhite_written x _ _)
    obtain ⟨s₂, hvalue, hready⟩ := hreads x (by simp) hbehind (Nat.le_refl _) rfl
    have hmember : Member false s₂ _ columns _ indent := ⟨hready, by simp⟩
    obtain ⟨s₃, hmore, hready'⟩ := ih (fun z hz => hreads z (by simp [hz])) hmember
    refine ⟨s₃, .head hentry (hvalue.trans hmore), ?_⟩
    simpa [itemTokens, Place.flush, opening] using hready'

/-- A pair is written behind the pairs before it. -/
lemma writtenEntries_pair (indent : Nat) (e : Value × Value) (es : Entries) :
    writtenEntries indent [] (e :: es) =
      writtenEntries indent [] [e] ++ writtenEntries indent (spaces indent) es := by
  obtain ⟨k, v⟩ := e
  cases hk : k.simpleKey? <;> simp [writtenEntries, hk]

lemma opensToken_keyLine {t : List Char} {wished : Style} (hsound : Sound t wished)
    (tail : List Char) : opensToken (keyLine wished t ++ tail) = true := by
  cases hstyle : Style.choose wished true t with
  | plain =>
    rw [keyLine, hstyle, Quoting.write]
    refine opensToken_plain (Style.plainText_of_choose (fun ht => ?_) hstyle) tail
    exact hsound.empty ht (Style.choose_eq_plain_iff.mp hstyle).1
  | single =>
    rw [keyLine, hstyle, Quoting.write]
    rfl
  | double =>
    rw [keyLine, hstyle, Quoting.write]
    rfl
  | literal => exact absurd (Style.choose_eq_literal hstyle).1 (by simp)

/-- A text as a key opens a token, in front of its colon or behind a question mark. -/
lemma opensToken_writtenEntries (t : String) (v : Value) (es : Entries) (tail : List Char) :
    opensToken (writtenEntries indent [] ((.string t, v) :: es) ++ tail) = true := by
  cases hk : (Value.string t).simpleKey? with
  | some text =>
    obtain ⟨rfl, -⟩ := simpleKey?_string hk
    simp only [writtenEntries, hk, List.nil_append, List.append_assoc]
    exact opensToken_keyLine (sound_string t) _
  | none =>
    simp only [writtenEntries, hk, List.nil_append, List.cons_append]
    rfl

/-- A pair of a mapping, with its key on the line of the colon or on lines of its own. -/
lemma Member.fetches_pair {t : String} {v : Value} (hv : ReadsBack v)
    (h : Member first s tokens columns
      (writtenEntries indent [] [(.string t, v)] ++ (spaces n ++ rest)) indent)
    (hn : n ≤ indent) (hrest : opensToken rest = true) :
    ∃ s' : Scan, Relation.ReflTransGen Fetches s s' ∧
      s'.Ready (tokens ++ (opening first .blockMappingStart ++ entryTokens [(.string t, v)]))
        (indent :: columns) rest n := by
  have hsound := sound_string t
  have htokens (flush : Bool) :
      (Value.string t).tokens flush = [.scalar t.toList ((Style.wish t).form t.toList)] :=
    tokens_of_scalar? rfl flush
  cases hk : (Value.string t).simpleKey? with
  | some text =>
    obtain ⟨rfl, hbreak, hlength⟩ := simpleKey?_string hk
    simp only [writtenEntries, hk, List.nil_append, List.append_nil, List.append_assoc,
      List.cons_append] at h
    obtain ⟨s₁, hkey, hbehind⟩ := h.fetches_key hbreak hsound.empty hlength (atWhite_written v _ _)
    obtain ⟨s₂, hvalue, hready⟩ := hv hbehind hn hrest
    refine ⟨s₂, hkey.trans hvalue, ?_⟩
    simpa [entryTokens, htokens, hk, Place.flush] using hready
  | none =>
    simp only [writtenEntries, hk, List.nil_append, List.append_nil, List.append_assoc,
      List.cons_append] at h
    obtain ⟨s₁, hquestion, hbehind⟩ := h.fetches_question (atWhite_written _ _ _)
    obtain ⟨s₂, hkey, hready⟩ :=
      readsBack_of_scalar? (v := .string t) rfl hsound hbehind (Nat.le_refl indent) rfl
    obtain ⟨s₃, hcolon, hbehind'⟩ := hready.fetches_colon (atWhite_written v _ _)
    obtain ⟨s₄, hvalue, hready'⟩ := hv hbehind' hn hrest
    refine ⟨s₄, .head hquestion (hkey.trans (.head hcolon hvalue)), ?_⟩
    simpa [entryTokens, htokens, hk, Place.flush] using hready'

/-- The pairs of a mapping, one after the other. -/
lemma Member.fetches_entries {e : Value × Value} {es : Entries}
    (hkeys : ∀ e' ∈ e :: es, ∃ t, e'.1 = .string t) (hreads : ∀ e' ∈ e :: es, ReadsBack e'.2)
    (h : Member first s tokens columns (writtenEntries indent [] (e :: es) ++ (spaces n ++ rest))
      indent) (hn : n ≤ indent) (hrest : opensToken rest = true) :
    ∃ s' : Scan, Relation.ReflTransGen Fetches s s' ∧
      s'.Ready (tokens ++ (opening first .blockMappingStart ++ entryTokens (e :: es)))
        (indent :: columns) rest n := by
  induction es generalizing e first s tokens with
  | nil =>
    obtain ⟨k, v⟩ := e
    obtain ⟨t, rfl⟩ : ∃ t, k = .string t := hkeys (k, v) (by simp)
    exact h.fetches_pair (hreads (.string t, v) (by simp)) hn hrest
  | cons e' es ih =>
    obtain ⟨k, v⟩ := e
    obtain ⟨t, rfl⟩ : ∃ t, k = .string t := hkeys (k, v) (by simp)
    obtain ⟨k', v'⟩ := e'
    obtain ⟨t', rfl⟩ : ∃ t', k' = .string t' := hkeys (k', v') (by simp)
    rw [writtenEntries_pair, writtenEntries_cons indent (spaces indent)] at h
    simp only [List.append_assoc] at h
    obtain ⟨s₁, hpair, hready⟩ := h.fetches_pair (hreads (.string t, v) (by simp)) (Nat.le_refl _)
      (opensToken_writtenEntries t' v' es _)
    have hmember : Member false s₁ _ columns _ indent := ⟨hready, by simp⟩
    obtain ⟨s₂, hmore, hready'⟩ := ih (fun e he => hkeys e (by simp [he]))
      (fun e he => hreads e (by simp [he])) hmember
    refine ⟨s₂, hpair.trans hmore, ?_⟩
    simpa [entryTokens, opening] using hready'

/-! ## Values -/

lemma readsBack_items {xs : List Value} (hreads : ∀ x ∈ xs, ReadsBack x) :
    ReadsBack (.sequence xs) := by
  intro p s tokens columns n rest hbehind hn hrest
  cases xs with
  | nil =>
    refine hbehind.fetches_brackets rfl rfl (fun s₁ h₁ => ?_) (fun s₁ h₁ => ?_) hrest
    · rw [dispatch, h₁]
      simp [fetchFrom, Lexeme.isDocumentIndicator]
    · rw [dispatch, h₁]
      simp [fetchFrom, Lexeme.isDocumentIndicator]
  | cons x xs =>
    rw [Value.written, writtenItems_cons, List.append_assoc] at hbehind
    have hopens : opensToken (writtenItems p.sequenceIndent [] (x :: xs) ++ (spaces n ++ rest)) =
        true := rfl
    cases hflush : p.flush with
    | true =>
      -- the column is that of the mapping around the sequence, and stays open
      have hindent : p.sequenceIndent = p.indent := if_pos hflush
      have hcompact : p.compact ≠ true := by
        intro hcompact
        simp [Place.flush, hcompact] at hflush
      have hready := hbehind.lead (fun hc => absurd hc hcompact) hopens
      rw [hindent] at hready
      have hmember : Member false s tokens columns _ p.indent := ⟨hready, by simp⟩
      simpa [Value.tokens, opening] using hmember.fetches_items hreads hn hrest
    | false =>
      have hindent : p.sequenceIndent = p.indent + 2 := if_neg (by simpa [Place.flush] using hflush)
      have hready := hbehind.lead (fun _ => hindent) hopens
      have hmember : Member true s tokens (p.indent :: columns) _ p.sequenceIndent :=
        ⟨hready, fun _ column hcolumn => by
          obtain rfl : p.indent = column := by simpa using hcolumn
          omega⟩
      obtain ⟨s', hfetches, hready'⟩ := hmember.fetches_items hreads (by omega) hrest
      refine ⟨s', hfetches, ?_⟩
      simpa [Value.tokens, opening] using hready'.close (by omega)

lemma readsBack_entries {es : Entries} (hkeys : ∀ e ∈ es, ∃ t, e.1 = .string t)
    (hreads : ∀ e ∈ es, ReadsBack e.2) : ReadsBack (.mapping es) := by
  intro p s tokens columns n rest hbehind hn hrest
  cases es with
  | nil =>
    refine hbehind.fetches_brackets rfl rfl (fun s₁ h₁ => ?_) (fun s₁ h₁ => ?_) hrest
    · rw [dispatch, h₁]
      simp [fetchFrom, Lexeme.isDocumentIndicator]
    · rw [dispatch, h₁]
      simp [fetchFrom, Lexeme.isDocumentIndicator]
  | cons e es =>
    obtain ⟨k, v⟩ := e
    obtain ⟨t, rfl⟩ : ∃ t, k = .string t := hkeys (k, v) (by simp)
    have hindent : p.mappingIndent = p.indent + 2 := rfl
    rw [Value.written, writtenEntries_cons, List.append_assoc] at hbehind
    have hready := hbehind.lead (fun _ => hindent) (opensToken_writtenEntries t v es _)
    have hmember : Member true s tokens (p.indent :: columns) _ p.mappingIndent :=
      ⟨hready, fun _ column hcolumn => by
        obtain rfl : p.indent = column := by simpa using hcolumn
        omega⟩
    obtain ⟨s', hfetches, hready'⟩ := hmember.fetches_entries hkeys hreads (by omega) hrest
    refine ⟨s', hfetches, ?_⟩
    simpa [Value.tokens, opening] using hready'.close (by omega)

/-- A legible value is read back wherever it stands. -/
theorem readsBack {depth : Nat} {v : Value} (h : Legible depth v) : ReadsBack v := by
  induction h with
  | null depth => exact readsBack_of_scalar? rfl ((Legible.null depth).sound rfl)
  | bool depth b =>
    cases b with
    | true => exact readsBack_of_scalar? rfl ((Legible.bool depth true).sound rfl)
    | false => exact readsBack_of_scalar? rfl ((Legible.bool depth false).sound rfl)
  | int depth hlow hhigh =>
    exact readsBack_of_scalar? rfl ((Legible.int depth hlow hhigh).sound rfl)
  | float depth x => exact readsBack_of_scalar? rfl ((Legible.float depth x).sound rfl)
  | string depth t => exact readsBack_of_scalar? rfl (sound_string t)
  | sequence _ ih => exact readsBack_items ih
  | mapping hkeys _ _ ih => exact readsBack_entries hkeys ih

end Scan
end Sidecars.Yaml
