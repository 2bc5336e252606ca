import Sidecars.Proofs.Yaml.Printable
import Sidecars.Proofs.Yaml.Token.Written

/-!
# The tokens of a written document

All tokens of a document are fetched, and then the run takes them: `Legible.stream`.
-/

namespace Sidecars.Yaml

open Scan

variable {tokens : List TokenKind} {depth : Nat} {e : Value × Value} {es : Entries}

/-! ## The end of the text -/

/-- At the end of the text the mapping of the document is closed. -/
lemma Scan.Stands.finish {s : Scan} (h : s.Stands tokens [0] [] 0) :
    s.finish = .ok { s with
      queue := s.queue ++ [⟨.blockEnd, s.mark⟩, ⟨.streamEnd, s.mark⟩]
      columns := []
      candidate := none
      keyAllowed := false } := by
  have hcolumn : s.mark.column = 0 := h.column
  have hflow : s.inFlow = false := by simp [inFlow, h.outer]
  have hclose : s.closeBlocks none =
      { s with queue := s.queue ++ [⟨.blockEnd, s.mark⟩], columns := [] } := by
    rw [Scan.closeBlocks, if_neg (by simp [hflow])]
    simp [h.columns]
  have hsame : { s with cursor := ⟨s.cursor.rest, s.mark⟩ } = s := rfl
  unfold Scan.finish
  simp only [if_pos hcolumn]
  rw [hsame, hclose, dropCandidate_eq]
  simp [h.candidate, Bind.bind, Except.bind, pure, Except.pure, emit, mark]

/-! ## The tokens of a value -/

lemma streamEnd_notMem_itemTokens {xs : List Value}
    (h : ∀ x ∈ xs, TokenKind.streamEnd ∉ x.tokens false) :
    TokenKind.streamEnd ∉ itemTokens xs := by
  induction xs with
  | nil => simp [itemTokens]
  | cons x xs ih =>
    have hx := h x (by simp)
    have hxs := ih fun y hy => h y (by simp [hy])
    simp [itemTokens, hx, hxs]

lemma streamEnd_notMem_entryTokens
    (hkeys : ∀ e ∈ es, TokenKind.streamEnd ∉ e.1.tokens false)
    (h : ∀ e ∈ es, ∀ flush, TokenKind.streamEnd ∉ e.2.tokens flush) :
    TokenKind.streamEnd ∉ entryTokens es := by
  induction es with
  | nil => simp [entryTokens]
  | cons e es ih =>
    obtain ⟨k, v⟩ := e
    have hk : TokenKind.streamEnd ∉ k.tokens false := hkeys (k, v) (by simp)
    have hv : ∀ flush, TokenKind.streamEnd ∉ v.tokens flush := h (k, v) (by simp)
    have hes := ih (fun e he => hkeys e (by simp [he])) fun e he => h e (by simp [he])
    simp [entryTokens, hk, hv, hes]

/-- A value holds no end of the text. -/
lemma Legible.streamEnd_notMem {v : Value} (h : Legible depth v) (flush : Bool) :
    TokenKind.streamEnd ∉ v.tokens flush := by
  induction h generalizing flush with
  | null | int | float | string => simp [Value.tokens, Value.scalar?]
  | bool _ b => cases b <;> simp [Value.tokens, Value.scalar?]
  | @sequence _ xs _ ih =>
    cases xs with
    | nil => simp [Value.tokens]
    | cons x xs =>
      have hitems := streamEnd_notMem_itemTokens fun y hy => ih y hy false
      rw [Value.tokens]
      split
      · exact hitems
      · simpa using hitems
  | @mapping _ es hkeys _ _ ih =>
    cases es with
    | nil => simp [Value.tokens]
    | cons e es =>
      have hentries := streamEnd_notMem_entryTokens (fun e he => ?_) ih
      · rw [Value.tokens]
        simpa using hentries
      · obtain ⟨s, hs⟩ := hkeys e he
        rw [hs]
        simp [Value.tokens, Value.scalar?]

/-! ## All tokens -/

lemma unreadable?_eq_none {text : List Char} (offset : Nat)
    (h : ∀ c ∈ text, isReadable c = true) : unreadable? offset text = none := by
  induction text generalizing offset with
  | nil => rfl
  | cons c text ih =>
    rw [unreadable?, if_pos (h c (by simp))]
    exact ih _ fun d hd => h d (by simp [hd])

/-- A text of printable characters is cut into tokens from its first character on. -/
lemma stream_of_isPrintable {text : List Char} (h : ∀ c ∈ text, isPrintable c = true) :
    Token.stream text = (Scan.start text).run (8 * text.length + 16) := by
  have hreadable := unreadable?_eq_none 0 fun c hc => isReadable_of_isPrintable (h c hc)
  cases text with
  | nil => rfl
  | cons c rest =>
    have hmark := ne_byteOrderMark_of_isPrintable (h c (by simp))
    unfold Token.stream
    simp only [if_neg hmark, hreadable]

/-- All tokens of a document can be fetched. -/
lemma exists_complete (h : Legible (depth + 1) (.mapping (e :: es))) :
    ∃ s : Scan, s.Complete ∧
      Relation.ReflTransGen Fetches (Scan.start (writtenEntries 0 [] (e :: es))) s ∧
      s.kinds = .streamStart :: (Value.mapping (e :: es)).tokens false ++ [.streamEnd] := by
  obtain ⟨hkeys, hvalues⟩ : (∀ e' ∈ e :: es, ∃ t, e'.1 = .string t) ∧
      ∀ e' ∈ e :: es, Legible depth e'.2 := by
    cases h with
    | mapping hkeys _ hvalues => exact ⟨hkeys, hvalues⟩
  have hopens : opensToken (writtenEntries 0 [] (e :: es)) = true := by
    obtain ⟨k, v⟩ := e
    obtain ⟨t, rfl⟩ : ∃ t, k = .string t := hkeys (k, v) (by simp)
    simpa using @opensToken_writtenEntries 0 t v es []
  have hready : (Scan.start (writtenEntries 0 [] (e :: es))).Ready [.streamStart] []
      (writtenEntries 0 [] (e :: es)) 0 :=
    ready_of_gap rfl rfl (toNextToken_of_opens false hopens) rfl (by simp [Scan.start])
  -- the document is the first member of a mapping in column 0, and nothing is open yet
  have hmember : Member true (Scan.start (writtenEntries 0 [] (e :: es))) [.streamStart] []
      (writtenEntries 0 [] (e :: es) ++ (spaces 0 ++ [])) 0 :=
    ⟨by simpa [spaces, around] using hready, by simp⟩
  obtain ⟨s₁, hfetches, hready₁⟩ := hmember.fetches_entries hkeys
    (fun e' he' => readsBack (hvalues e' he')) (Nat.le_refl 0) rfl
  -- behind the last member there is the end of the text
  obtain ⟨s₂, hstands, hfetch, hgrows⟩ := hready₁.fetch (by simp)
  have hdispatch : s₂.dispatch = s₂.finish := by rw [dispatch, hstands.rest]
  have hfinish := (hfetch.trans hdispatch).trans hstands.finish
  have hkinds : s₂.queue.map (·.kind) = _ := hstands.kinds
  have hmapping := h.streamEnd_notMem false
  refine ⟨_, ?_, hfetches.tail ⟨hfinish, ?_⟩, ?_⟩
  · refine ⟨rfl, hstands.outer, s₂.queue ++ [⟨.blockEnd, s₂.mark⟩], ⟨.streamEnd, s₂.mark⟩,
      by simp, rfl, ?_⟩
    intro t ht hkind
    rcases List.mem_append.mp ht with ht | ht
    · have hmem := List.mem_map_of_mem (f := (·.kind)) ht
      rw [hkinds, hkind] at hmem
      simp only [Value.tokens] at hmapping
      simp [opening] at hmem hmapping
      tauto
    · simp [List.mem_singleton.mp ht] at hkind
  · simp only [List.length_append, List.length_cons, List.length_nil]
    omega
  · simp [kinds, hkinds, Value.tokens, opening]

/-- The tokens of a document, all of them. -/
theorem Legible.stream (h : Legible (depth + 1) (.mapping (e :: es))) :
    ∃ ts, Token.stream (writtenEntries 0 [] (e :: es)) = (ts, none) ∧
      ts.map (·.kind) =
        .streamStart :: (Value.mapping (e :: es)).tokens false ++ [.streamEnd] := by
  obtain ⟨s, hcomplete, hfetches, hkinds⟩ := exists_complete h
  refine ⟨s.queue, ?_, hkinds⟩
  obtain ⟨hkeys, hvalues⟩ : (∀ e' ∈ e :: es, ∃ t, e'.1 = .string t) ∧
      ∀ e' ∈ e :: es, Legible depth e'.2 := by
    cases h with
    | mapping hkeys _ hvalues => exact ⟨hkeys, hvalues⟩
  have hprintable : ∀ c ∈ writtenEntries 0 [] (e :: es), isPrintable c = true := fun c hc =>
    isPrintable_of_mem_entries (by simp) (fun e' _ => e'.1.isPrintable_of_mem)
      (fun e' _ => e'.2.isPrintable_of_mem) hc
  have hlength : s.queue.length ≤ 2 * (writtenEntries 0 [] (e :: es)).length + 4 := by
    have hcount : s.queue.length = s.kinds.length := by simp [Scan.kinds]
    have hentries := length_entryTokens 0 [] hkeys fun e' he' p => (hvalues e' he').length_tokens p
    rw [hcount, hkinds, Value.tokens]
    simp only [List.length_append, List.length_cons, List.length_nil]
    omega
  generalize writtenEntries 0 [] (e :: es) = text at hfetches hprintable hlength ⊢
  -- a fetch for each token and a step to take it
  have hrun : (Scan.start text).run (8 * text.length + 16) = (s.queue.drop 0, none) := by
    refine @run_of_fetches _ [] s hcomplete _ rfl (by simp [Waiting, Scan.start]) hfetches ?_ ?_
    · refine List.length_pos_of_ne_nil fun hempty => ?_
      simp [Scan.kinds, hempty] at hkinds
    · simp [Scan.start]
      omega
  rw [stream_of_isPrintable hprintable, hrun, List.drop_zero]

end Sidecars.Yaml
