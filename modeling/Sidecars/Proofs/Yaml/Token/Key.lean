import Sidecars.Proofs.Yaml.Printable
import Sidecars.Proofs.Yaml.Token.Member

/-!
# Fetching a key and its colon

A key in front of a colon is at first a scalar like any other.  The token for it, and the start of
the mapping, are put in front of the scalar when the colon is reached, if that is not too far away.

* `length_write_le` bounds the written form of a short key;
* `Member.fetches_key` is the key with its colon.
-/

namespace Sidecars.Yaml

variable {t : List Char} {wished : Style}

/-! ## The length of a key -/

/-- The longer an escape, the more bytes its character has. -/
lemma length_escaped_le (c : Char) : (Quoting.escaped c).length ≤ 4 * c.utf8Size := by
  have hsize := c.utf8Size_pos
  have htwo : 0xFF < c.toNat → 2 ≤ c.utf8Size := by
    intro hc
    have hne : c.utf8Size ≠ 1 := by
      rw [Ne, Char.utf8Size_eq_one_iff, UInt32.le_iff_toNat_le]
      exact fun hle => absurd (Nat.lt_of_lt_of_le hc hle) (by decide)
    omega
  have hfour : 0xFFFF < c.toNat → c.utf8Size = 4 := fun hc =>
    Char.utf8Size_eq_four_iff.mpr (UInt32.lt_iff_toNat_lt.mpr hc)
  unfold Quoting.escaped
  split
  · simp only [List.length_singleton]
    omega
  · split
    · simp only [List.length_cons, List.length_nil]
      omega
    · dsimp only
      split
      · simp only [List.length_cons, Lexeme.length_hex]
        omega
      · split
        · simp only [List.length_cons, Lexeme.length_hex]
          omega
        · simp only [List.length_cons, Lexeme.length_hex]
          omega

lemma length_encodeChars_cons (c : Char) (t : List Char) :
    (Text.Utf8.encodeChars (c :: t)).length =
      c.utf8Size + (Text.Utf8.encodeChars t).length := by
  simp [Text.Utf8.encodeChars]

lemma length_doubled_le (t : List Char) :
    (Quoting.doubled t).length ≤ 4 * (Text.Utf8.encodeChars t).length := by
  induction t with
  | nil => simp [Quoting.doubled]
  | cons c t ih =>
    have hsize := c.utf8Size_pos
    have hc : (if c = '\'' then ['\'', '\''] else [c]).length ≤ 2 := by
      split <;> simp
    rw [length_encodeChars_cons]
    simp only [Quoting.doubled, List.flatMap_cons, List.length_append] at ih ⊢
    omega

lemma length_double_le (t : List Char) :
    (Quoting.double t).length ≤ 4 * (Text.Utf8.encodeChars t).length + 2 := by
  induction t with
  | nil => simp [Quoting.double]
  | cons c t ih =>
    have hc := length_escaped_le c
    rw [length_encodeChars_cons]
    simp only [Quoting.double, List.flatMap_cons, List.length_append, List.length_cons,
      List.length_nil] at ih ⊢
    omega

/-- A key of few bytes is short in every style. -/
lemma length_write_le (h : ∀ c ∈ t, isBreak c = false) :
    (Quoting.write (Style.choose wished true t) 0 t).length ≤
      4 * (Text.Utf8.encodeChars t).length + 2 := by
  cases hstyle : Style.choose wished true t with
  | plain =>
    have hle : t.length ≤ (Text.Utf8.encodeChars t).length := by
      clear h hstyle
      induction t with
      | nil => simp
      | cons c t ih =>
        have hsize := c.utf8Size_pos
        rw [length_encodeChars_cons, List.length_cons]
        omega
    simp only [Quoting.write]
    omega
  | single =>
    have hle := length_doubled_le t
    simp only [Quoting.write, Quoting.single_of_unbroken 0 h, List.length_cons, List.length_append,
      List.length_nil]
    omega
  | double => exact length_double_le t
  | literal => exact absurd (Style.choose_eq_literal hstyle).1 (by simp)

/-! ## A key as a scalar -/

namespace Scan

variable {first : Bool} {s : Scan} {tokens : List TokenKind} {columns : List Nat} {n : Nat}
  {tail : List Char}

/-- The written form of a key. -/
abbrev keyLine (wished : Style) (t : List Char) : List Char :=
  Quoting.write (Style.choose wished true t) 0 t

/-- Up to its colon, a key is a scalar behind which a candidate is left. -/
lemma Stands.dispatch_key (h : s.Stands tokens columns (keyLine wished t ++ ':' :: tail) n)
    (hcolumns : ∀ column ∈ columns.head?, column ≤ n) (hbreak : ∀ c ∈ t, isBreak c = false)
    (hempty : t = [] → wished ≠ .plain) (htail : atWhite tail = true) :
    s.dispatch = .ok (s.content (.scalar t (wished.form t))
      ⟨':' :: tail, s.mark.after (keyLine wished t)⟩ false (some s.nextCandidate)) := by
  have hflow : s.inFlow = false := by simp [inFlow, h.outer]
  have hnoted : s.noted = some s.nextCandidate := by simp [noted, h.keyAllowed]
  have hform := Style.choose_key_eq_plain_iff hempty
  have hquoted : Style.choose wished true t ≠ .plain → wished.form t = .quoted := fun hne =>
    if_neg (mt hform.mpr hne)
  have hrest := h.rest
  rw [← hnoted]
  cases hstyle : Style.choose wished true t with
  | plain =>
    have hplain : PlainText t := by
      refine Style.plainText_of_choose (fun ht => ?_) hstyle
      exact hempty ht (Style.choose_eq_plain_iff.mp hstyle).1
    rw [show wished.form t = .plain from if_pos (hform.mp hstyle)]
    rw [keyLine, hstyle, Quoting.write] at hrest ⊢
    refine (dispatch_plain hplain hflow hrest fun _ => ?_).trans (fetchPlain_eq h.candidate ?_)
    · exact Lexeme.isDocumentIndicator_plain hplain (by simp)
    · have hcursor : s.cursor = ⟨t ++ ':' :: tail, s.mark⟩ := congrArg (Cursor.mk · s.mark) hrest
      rw [hflow, hcursor, h.columns]
      refine Lexeme.plain_before_colon hplain ?_ htail
      have hcolumn := h.column
      cases columns with
      | nil => simp
      | cons c columns =>
        have := hcolumns c rfl
        simp only [List.head?_cons, Option.elim]
        omega
  | single =>
    have hsingle : SingleText t := by
      refine Style.singleText_of_choose (fun hfeed => ?_) hstyle
      exact absurd (hbreak _ hfeed) (by decide)
    rw [hquoted (by simp [hstyle])]
    -- without line breaks there is no margin, so its width does not matter
    rw [keyLine, hstyle, Quoting.write, Quoting.single_of_unbroken 0 hbreak,
      ← Quoting.single_of_unbroken 1 hbreak] at hrest ⊢
    refine (dispatch_single hrest).trans (fetchContent_eq h.candidate ?_)
    rw [show s.cursor = ⟨_, s.mark⟩ from congrArg (Cursor.mk · s.mark) hrest]
    exact Lexeme.quoted_single (by decide) hsingle (by simp)
  | double =>
    rw [hquoted (by simp [hstyle])]
    rw [keyLine, hstyle, Quoting.write] at hrest ⊢
    refine (dispatch_double hrest).trans (fetchContent_eq h.candidate ?_)
    rw [show s.cursor = ⟨_, s.mark⟩ from congrArg (Cursor.mk · s.mark) hrest]
    exact Lexeme.quoted_double t _
  | literal => exact absurd (Style.choose_eq_literal hstyle).1 (by simp)

/-! ## The colon behind a key -/

variable {k : KeyCandidate}

/-- At a colon that is not too far away, the candidate is still there. -/
lemma fetch_colon (hrest : s.cursor.rest = ':' :: tail) (hcandidate : s.candidate = some k)
    (houter : s.outer = []) (hline : k.mark.line = s.mark.line)
    (hindex : s.mark.index ≤ k.mark.index + 1024) (hcolumn : 0 < s.mark.column)
    (hcolumns : ∀ column ∈ s.columns.head?, column ≤ s.mark.column) (htail : atWhite tail = true) :
    s.fetch = s.fetchValue := by
  have hflow : s.inFlow = false := by simp [inFlow, houter]
  have happroach : s.approach = .ok s := by
    refine approach_eq_self (by rw [hrest]; rfl) fun k' hk' k'' hk'' => ?_
    obtain rfl : k = k'' := by
      rcases List.mem_cons.mp hk' with rfl | hk'
      · simpa [hcandidate] using hk''
      · simp [houter] at hk'
    simp only [KeyCandidate.isStale, Bool.or_eq_false_iff, decide_eq_false_iff_not]
    omega
  have hcolumn' : s.mark.column ≠ 0 := by omega
  rw [Scan.fetch, happroach, Except.bind, closeBlocks_of_le hcolumns, dispatch, hrest]
  simp [fetchFrom, hcolumn', hflow, htail]

/-- The token for the key goes in front of the scalar at which it begins. -/
lemma fetchValue_insert {queue : List Token} {scalar : Token} (hcandidate : s.candidate = some k)
    (hflow : s.inFlow = false) (hdeeper : s.isDeeper k.mark.column = first)
    (hqueue : s.queue = queue ++ [scalar]) (hnumber : k.number = queue.length)
    (htaken : s.taken = 0) :
    s.fetchValue = .ok { s with
      queue := queue ++ ((opening first .blockMappingStart ++ [TokenKind.key]).map (⟨·, k.mark⟩) ++
        [scalar, ⟨.value, s.mark⟩])
      cursor := s.cursor.skip 1
      columns := if first then k.mark.column :: s.columns else s.columns
      candidate := none
      keyAllowed := false } := by
  unfold fetchValue
  simp only [hcandidate, hflow, hdeeper, Bool.not_false, Bool.true_and]
  cases first <;>
    simp [Scan.insert, indicator, emit, opening, hqueue, hnumber, htaken, mark]

/-- The state at the colon behind a scalar that may be a key. -/
def atColon (s : Scan) (kind : TokenKind) (w tail : List Char) : Scan :=
  s.content kind ⟨':' :: tail, s.mark.advance w.length⟩ false (some s.nextCandidate)

/-- The colon behind a scalar of a line makes it a key, unless it is too long. -/
lemma Stands.fetches_value {text w : List Char} (kind : TokenKind)
    (h : s.Stands tokens (around first n columns) text n)
    (hcolumns : ∀ column ∈ (around first n columns).head?, column ≤ n)
    (hdeeper : first = true → ∀ column ∈ columns.head?, column < n) (hw : w ≠ [])
    (hlength : w.length ≤ 1024) (htail : atWhite tail = true) :
    ∃ s' : Scan, Fetches (s.atColon kind w tail) s' ∧
      Behind ⟨n, true, false⟩ s' (tokens ++ (opening first .blockMappingStart ++
        [.key, kind, .value])) columns tail := by
  have hpos := List.length_pos_of_ne_nil hw
  have hcolumn : s.mark.column = n := h.column
  have hflow : s.inFlow = false := by simp [inFlow, h.outer]
  have hcandidate : (s.atColon kind w tail).candidate = some s.nextCandidate := rfl
  -- the colon is on the line of the candidate, and near enough for it to be still there
  have hcolon : (s.atColon kind w tail).fetch = (s.atColon kind w tail).fetchValue := by
    refine fetch_colon rfl hcandidate h.outer rfl ?_ (Nat.add_pos_right _ hpos) ?_ htail
    · show s.mark.index + w.length ≤ s.mark.index + 1024
      omega
    · show ∀ column ∈ s.columns.head?, column ≤ s.mark.column + w.length
      rw [h.columns, hcolumn]
      exact fun column hc => Nat.le_add_right_of_le (hcolumns column hc)
  have hisDeeper : (s.atColon kind w tail).isDeeper s.nextCandidate.mark.column = first := by
    rw [show s.nextCandidate.mark.column = n from hcolumn]
    exact isDeeper_around h.columns hdeeper
  have hqueue : (s.atColon kind w tail).queue = s.queue ++ [⟨kind, s.mark⟩] := rfl
  have hvalue := fetchValue_insert hcandidate hflow hisDeeper hqueue
    (by simp [nextCandidate, h.taken]) h.taken
  refine ⟨_, ⟨hcolon.trans hvalue, ?_⟩, rfl, ?_, by simp, rfl, rfl, h.outer, h.taken, ?_, ?_⟩
  · simp only [atColon, content, emit, List.length_append, List.length_cons, List.length_nil,
      List.length_map]
    omega
  · show n < s.mark.column + w.length + 1
    omega
  · show (if first then s.mark.column :: s.columns else s.columns) = n :: columns
    rw [h.columns, hcolumn]
    cases first <;> rfl
  · have hkinds : s.queue.map (·.kind) = tokens := h.kinds
    simp [Scan.kinds, hkinds, Function.comp_def]

/-- A key is fetched together with its colon. -/
theorem Member.fetches_key
    (h : Member first s tokens columns (keyLine wished t ++ ':' :: tail) n)
    (hbreak : ∀ c ∈ t, isBreak c = false) (hempty : t = [] → wished ≠ .plain)
    (hlength : (Text.Utf8.encodeChars t).length ≤ 128) (htail : atWhite tail = true) :
    ∃ s' : Scan, Relation.ReflTransGen Fetches s s' ∧
      Behind ⟨n, true, false⟩ s' (tokens ++ (opening first .blockMappingStart ++
        [.key, .scalar t (wished.form t), .value])) columns tail := by
  obtain ⟨s₁, hstands, hfetch, hgrows⟩ := h.ready.fetch h.head_le
  -- the key stays on its line
  have hmark : s₁.mark.after (keyLine wished t) = s₁.mark.advance (keyLine wished t).length :=
    Mark.after_of_no_break _ (shown_write_key hbreak).unbroken
  have hdispatch := hstands.dispatch_key h.head_le hbreak hempty htail
  rw [hmark] at hdispatch
  have hshort : (keyLine wished t).length ≤ 1024 :=
    Nat.le_trans (length_write_le hbreak) (by omega)
  obtain ⟨s', hcolon, hbehind⟩ := hstands.fetches_value (.scalar t (wished.form t)) h.head_le
    h.deeper (Style.write_key_ne_nil hempty) hshort htail
  refine ⟨s', .tail (.single ⟨hfetch.trans hdispatch, ?_⟩) hcolon, hbehind⟩
  simp only [content, emit, List.length_append, List.length_singleton]
  omega

end Scan
end Sidecars.Yaml
