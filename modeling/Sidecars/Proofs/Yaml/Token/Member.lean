import Sidecars.Proofs.Yaml.Token.Scalar

/-!
# Fetching what introduces a member

The members of a block collection stand in its column, each behind an indicator or as a key.  The
first of them opens the collection, unless the column is open already.

* `Member first s tokens columns text n`: the state comes to a member in column `n`;
* `Member.fetches_entry`, `Member.fetches_question` and `Ready.fetches_colon` are the indicators:
  each is fetched with the start of the collection, and a node is behind it.
-/

namespace Sidecars.Yaml.Scan

/-- The columns in front of a member of a collection in column `n`. -/
def around (first : Bool) (n : Nat) (columns : List Nat) : List Nat :=
  if first then columns else n :: columns

/-- The token that opens a collection in front of its first member. -/
def opening (first : Bool) (kind : TokenKind) : List TokenKind := if first then [kind] else []

/-- The state comes to a member of a collection in column `n`, which is open unless this is its
first member. -/
structure Member (first : Bool) (s : Scan) (tokens : List TokenKind) (columns : List Nat)
    (text : List Char) (n : Nat) : Prop where
  ready : s.Ready tokens (around first n columns) text n
  deeper : first = true → ∀ column ∈ columns.head?, column < n

variable {first : Bool} {s : Scan} {tokens : List TokenKind} {columns : List Nat} {n : Nat}
  {text tail : List Char} {kind : TokenKind}

lemma Member.head_le (h : Member first s tokens columns text n) :
    ∀ column ∈ (around first n columns).head?, column ≤ n := by
  intro column hcolumn
  cases first with
  | true => exact Nat.le_of_lt (h.deeper rfl column hcolumn)
  | false =>
    obtain rfl : n = column := by simpa [around] using hcolumn
    exact Nat.le_refl n

lemma isDeeper_around (hcolumns : s.columns = around first n columns)
    (h : first = true → ∀ column ∈ columns.head?, column < n) : s.isDeeper n = first := by
  unfold isDeeper
  cases first with
  | true =>
    rw [hcolumns, around, if_pos rfl]
    cases columns with
    | nil => rfl
    | cons c columns => simpa using h rfl c
  | false => simp [hcolumns, around]

/-! ## Indicators -/

/-- An indicator opens the collection of its column, unless it is open already. -/
lemma Stands.openAtIndicator {problem : Problem}
    (h : s.Stands tokens (around first n columns) text n)
    (hdeeper : first = true → ∀ column ∈ columns.head?, column < n) :
    ∃ s' : Scan, s.openAtIndicator kind problem = .ok s' ∧
      s'.Stands (tokens ++ opening first kind) (n :: columns) text n ∧
      s.queue.length ≤ s'.queue.length := by
  have hflow : s.inFlow = false := by simp [inFlow, h.outer]
  have hisDeeper := isDeeper_around h.columns hdeeper
  have hcolumn : s.mark.column = n := h.column
  refine ⟨s.openBlock s.mark.column kind s.mark, ?_, ?_, ?_⟩
  · simp [Scan.openAtIndicator, hflow, h.keyAllowed]
  · obtain ⟨hrest, -, hallowed, hcandidate, houter, htaken, hcolumns, hkinds⟩ := h
    unfold openBlock
    cases first with
    | true =>
      rw [hcolumn, if_pos (by simp [hflow, hisDeeper])]
      refine ⟨hrest, hcolumn, hallowed, hcandidate, houter, htaken, ?_, ?_⟩
      · simpa [around, emit] using hcolumns
      · show (s.emit kind s.mark).kinds = _
        rw [kinds_emit, hkinds]
        rfl
    | false =>
      rw [hcolumn, if_neg (by simp [hisDeeper])]
      exact ⟨hrest, hcolumn, hallowed, hcandidate, houter, htaken, hcolumns, by
        simpa [opening] using hkinds⟩
  · unfold openBlock
    split <;> simp [emit]

/-- Behind an indicator a collection may start on the same line. -/
lemma Stands.behind_indicator {x : Char} (h : s.Stands tokens (n :: columns) (x :: tail) n)
    (inMapping : Bool) (kind : TokenKind) :
    Behind ⟨n, inMapping, true⟩ { s.indicator kind with keyAllowed := true } (tokens ++ [kind])
      columns tail := by
  have hcolumn : s.cursor.mark.column = n := h.column
  refine ⟨?_, ?_, fun _ => ?_, rfl, h.candidate, h.outer, h.taken, h.columns, ?_⟩
  · simp [indicator, Cursor.skip, h.rest]
  · simp [indicator, Cursor.skip, mark, Mark.advance, hcolumn]
  · simp [indicator, Cursor.skip, mark, Mark.advance, hcolumn]
  · show (s.emit kind s.mark).kinds = _
    rw [kinds_emit, h.kinds]

/-- An indicator of a member is fetched with the start of the collection, if it is the first. -/
lemma Member.fetches_indicator {x : Char} (inMapping : Bool) (collection kind : TokenKind)
    (problem : Problem) (h : Member first s tokens columns (x :: tail) n)
    (hdispatch : ∀ s₁ s₂ : Scan, s₁.cursor.rest = x :: tail → s₁.inFlow = false →
      s₁.candidate = none → s₁.openAtIndicator collection problem = .ok s₂ →
      s₂.inFlow = false → s₂.candidate = none →
        s₁.dispatch = .ok { s₂.indicator kind with keyAllowed := true }) :
    ∃ s' : Scan, Fetches s s' ∧
      Behind ⟨n, inMapping, true⟩ s' (tokens ++ opening first collection ++ [kind]) columns
        tail := by
  obtain ⟨s₁, hstands, hfetch, hgrows⟩ := h.ready.fetch h.head_le
  obtain ⟨s₂, hopen, hstands', hgrows'⟩ := hstands.openAtIndicator h.deeper
  refine ⟨_, ⟨hfetch.trans (hdispatch s₁ s₂ hstands.rest (by simp [inFlow, hstands.outer])
    hstands.candidate hopen (by simp [inFlow, hstands'.outer]) hstands'.candidate), ?_⟩,
    hstands'.behind_indicator inMapping kind⟩
  simp only [indicator, emit, List.length_append, List.length_singleton]
  omega

/-- The hyphen of an item. -/
lemma Member.fetches_entry (h : Member first s tokens columns ('-' :: tail) n)
    (htail : atWhite tail = true) :
    ∃ s' : Scan, Fetches s s' ∧
      Behind ⟨n, false, true⟩ s' (tokens ++ opening first .blockSequenceStart ++ [.blockEntry])
        columns tail := by
  refine Member.fetches_indicator false .blockSequenceStart .blockEntry .entryNotAllowed h
    fun s₁ s₂ hrest _ _ hopen _ hnone => ?_
  -- white space ends the indicator, so that it begins no line of hyphens
  have hindicator : Lexeme.isDocumentIndicator ('-' :: tail) = false := by
    unfold Lexeme.isDocumentIndicator
    split
    · simp_all [atWhite, isWhite, isBlank, isBreak]
    · simp_all
    · rfl
  have hdispatch : s₁.dispatch = s₁.fetchBlockEntry := by
    rw [dispatch, hrest]
    simp [fetchFrom, hindicator, htail]
  rw [hdispatch, fetchBlockEntry, hopen]
  simp [Bind.bind, Except.bind, dropCandidate, hnone, pure, Except.pure]

/-- The question mark of a key. -/
lemma Member.fetches_question (h : Member first s tokens columns ('?' :: tail) n)
    (htail : atWhite tail = true) :
    ∃ s' : Scan, Fetches s s' ∧
      Behind ⟨n, true, true⟩ s' (tokens ++ opening first .blockMappingStart ++ [.key])
        columns tail := by
  refine Member.fetches_indicator true .blockMappingStart .key .keyNotAllowed h
    fun s₁ s₂ hrest hflow _ hopen hflow' hnone => ?_
  have hdispatch : s₁.dispatch = s₁.fetchKey := by
    rw [dispatch, hrest]
    simp [fetchFrom, Lexeme.isDocumentIndicator, hflow, htail]
  rw [hdispatch, fetchKey, hopen]
  simp [Bind.bind, Except.bind, dropCandidate, hnone, hflow', pure, Except.pure]

/-- The colon of a value whose key stands on lines of its own. -/
lemma Ready.fetches_colon (h : s.Ready tokens (n :: columns) (':' :: tail) n)
    (htail : atWhite tail = true) :
    ∃ s' : Scan, Fetches s s' ∧
      Behind ⟨n, true, true⟩ s' (tokens ++ [.value]) columns tail := by
  have hmember : Member false s tokens columns (':' :: tail) n := ⟨h, by simp⟩
  obtain ⟨s', hfetches, hbehind⟩ := Member.fetches_indicator true .blockMappingStart .value
    .valueNotAllowed hmember fun s₁ s₂ hrest hflow hnone hopen hflow' _ => by
      have hdispatch : s₁.dispatch = s₁.fetchValue := by
        rw [dispatch, hrest]
        simp [fetchFrom, Lexeme.isDocumentIndicator, hflow, htail]
      rw [hdispatch]
      simp [fetchValue, hnone, hopen, hflow', Bind.bind, Except.bind, pure, Except.pure]
  exact ⟨s', hfetches, by simpa [opening] using hbehind⟩

end Sidecars.Yaml.Scan
