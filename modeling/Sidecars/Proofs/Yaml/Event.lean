import Sidecars.Yaml.Document
import Sidecars.Proofs.Yaml.Token.Document

/-!
# The events of a written document

The grammar is a machine whose stack holds what is expected behind the current node.  Over the
tokens of a value it gives the events of the value, and then comes to what was expected.

* `Emits g ks g'`: the grammar goes from `g` to `g'` and gives the events `ks` on the way;
* `Parses v`: over the tokens of `v` the grammar gives its events, wherever they stand;
* `run_of_emits` is what a run makes of it.
-/

namespace Sidecars.Yaml

namespace Grammar

/-! ## Steps of the grammar -/

/-- The grammar gives events on its way from one state to another; their places do not matter. -/
inductive Emits : Grammar → List EventKind → Grammar → Prop where
  | refl (g : Grammar) : Emits g [] g
  | step {g g₁ g₂ : Grammar} {kind : EventKind} {kinds : List EventKind} {mark : Mark}
      (first : g.step = .event ⟨kind, mark⟩ g₁) (more : Emits g₁ kinds g₂) :
      Emits g (kind :: kinds) g₂

variable {g g' g₁ g₂ : Grammar} {kinds kinds' : List EventKind}

lemma Emits.trans (h : Emits g kinds g₁) (h' : Emits g₁ kinds' g₂) :
    Emits g (kinds ++ kinds') g₂ := by
  induction h with
  | refl => exact h'
  | step first _ ih => exact .step first (ih h')

lemma Emits.single {kind : EventKind} {mark : Mark} (h : g.step = .event ⟨kind, mark⟩ g₁) :
    Emits g [kind] g₁ :=
  .step h (.refl g₁)

/-- A run gives the events, and goes on from the state behind them. -/
lemma run_of_emits (ended : Option Fault) (fuel : Nat) (h : Emits g kinds g')
    (hkinds : EventKind.streamEnd ∉ kinds) :
    ∃ es : List Event, es.map (·.kind) = kinds ∧
      run ended (kinds.length + fuel) g =
        (es ++ (run ended fuel g').1, (run ended fuel g').2) := by
  induction h with
  | refl => exact ⟨[], rfl, by simp⟩
  | @step g g₁ g₂ kind kinds mark first _ ih =>
    simp only [List.mem_cons, not_or] at hkinds
    obtain ⟨es, hes, hrun⟩ := ih hkinds.2
    refine ⟨⟨kind, mark⟩ :: es, by simp [hes], ?_⟩
    rw [List.length_cons, Nat.add_right_comm, run, first]
    simp [Ne.symm hkinds.1, hrun]

/-! ## Nodes -/

/-- Over the tokens of a value, the grammar gives its events.  A sequence whose bounds are not shown
has to be allowed, and ends in front of a token that is no further item. -/
def Parses (v : Value) : Prop :=
  ∀ ⦃flush entries : Bool⦄ ⦃ts rest : List Token⦄ ⦃expected next : Expected⦄
    ⦃pending : List Expected⦄ ⦃handles : List (List Char × Bytes)⦄ ⦃g : Grammar⦄,
    ts.map (·.kind) = v.tokens flush →
    (flush = true → entries = true ∧ ∃ t ∈ rest.head?, t.kind ≠ .blockEntry) →
    g.step = node ⟨ts ++ rest, expected, next :: pending, handles⟩ true entries →
      Emits g v.events ⟨rest, next, pending, handles⟩

variable {t : Token} {ts rest : List Token} {expected next : Expected} {pending : List Expected}
  {handles : List (List Char × Bytes)} {entries : Bool} {since : Mark}

lemma parses_of_scalar? {v : Value} {text : List Char} {wished : Style}
    (h : v.scalar? = some (text, wished)) : Parses v := by
  intro flush entries ts rest expected next pending handles g hts _ hstep
  rw [tokens_of_scalar? h] at hts
  obtain ⟨⟨kind, mark⟩, ts, rfl, hkind, hnil⟩ := List.map_eq_cons_iff.mp hts
  obtain rfl := List.map_eq_nil_iff.mp hnil
  obtain rfl : kind = _ := hkind
  rw [events_of_scalar? h]
  exact .single hstep

/-- A token at which a node starts.  Only an item of a sequence whose bounds are not shown starts
with a hyphen. -/
structure StartsNode (flush : Bool) (t : Token) : Prop where
  key : t.kind ≠ .key
  value : t.kind ≠ .value
  blockEnd : t.kind ≠ .blockEnd
  blockEntry : flush = false → t.kind ≠ .blockEntry

lemma startsNode_of_kind {flush : Bool} {kind : TokenKind} (h : t.kind = kind)
    (hkind : kind ∉ [.key, .value, .blockEnd, .blockEntry]) : StartsNode flush t := by
  subst h
  simp only [List.mem_cons, List.not_mem_nil, or_false, not_or] at hkind
  exact ⟨hkind.1, hkind.2.1, hkind.2.2.1, fun _ => hkind.2.2.2⟩

lemma exists_startsNode {depth : Nat} {v : Value} (h : Legible depth v) {flush : Bool}
    (hts : ts.map (·.kind) = v.tokens flush) :
    ∃ t ts', ts = t :: ts' ∧ StartsNode flush t := by
  have hcons {kind : TokenKind} {kinds : List TokenKind}
      (hkinds : v.tokens flush = kind :: kinds)
      (hkind : kind ∉ [.key, .value, .blockEnd, .blockEntry]) :
      ∃ t ts', ts = t :: ts' ∧ StartsNode flush t := by
    rw [hkinds] at hts
    obtain ⟨t, ts', rfl, ht, -⟩ := List.map_eq_cons_iff.mp hts
    exact ⟨t, ts', rfl, startsNode_of_kind ht hkind⟩
  cases h with
  | null | int | float | string => exact hcons (tokens_of_scalar? rfl flush) (by simp)
  | bool _ b => cases b <;> exact hcons (tokens_of_scalar? rfl flush) (by simp)
  | @sequence _ xs _ =>
    cases xs with
    | nil => exact hcons rfl (by simp)
    | cons x xs =>
      cases flush with
      | true =>
        rw [Value.tokens, if_pos rfl, itemTokens] at hts
        obtain ⟨t, ts', rfl, ht, -⟩ := List.map_eq_cons_iff.mp hts
        exact ⟨t, ts', rfl, by simp [ht], by simp [ht], by simp [ht], by simp⟩
      | false => exact hcons rfl (by simp)
  | @mapping _ es _ _ _ =>
    cases es with
    | nil => exact hcons rfl (by simp)
    | cons e es => exact hcons rfl (by simp)

/-- The items of a sequence. -/
lemma emits_items {entry : Expected}
    (hentry : ∀ (t next : Token) (rest : List Token), t.kind = .blockEntry →
      StartsNode false next → step ⟨t :: next :: rest, entry, pending, handles⟩ =
        node ⟨next :: rest, entry, entry :: pending, handles⟩ true false)
    {depth : Nat} {xs : List Value} (hlegible : ∀ x ∈ xs, Legible depth x)
    (hparses : ∀ x ∈ xs, Parses x) (hts : ts.map (·.kind) = itemTokens xs) :
    Emits ⟨ts ++ rest, entry, pending, handles⟩ (itemEvents xs)
      ⟨rest, entry, pending, handles⟩ := by
  induction xs generalizing ts with
  | nil =>
    obtain rfl := List.map_eq_nil_iff.mp hts
    exact .refl _
  | cons x xs ih =>
    obtain ⟨t, ts₀, rfl, ht, hts₀⟩ := List.map_eq_cons_iff.mp hts
    obtain ⟨tx, ts', rfl, htx, hts'⟩ := List.map_eq_append_iff.mp hts₀
    obtain ⟨u, tx', rfl, hu⟩ := exists_startsNode (hlegible x (by simp)) htx
    have hx : Emits ⟨t :: u :: (tx' ++ (ts' ++ rest)), entry, pending, handles⟩ x.events
        ⟨ts' ++ rest, entry, pending, handles⟩ :=
      hparses x (by simp) htx (by simp) (hentry t u _ ht hu)
    have hxs := ih (fun y hy => hlegible y (by simp [hy])) (fun y hy => hparses y (by simp [hy])) hts'
    rw [itemEvents]
    simpa using hx.trans hxs

lemma step_sequenceEntry (t u : Token) (ht : t.kind = .blockEntry) (hu : StartsNode false u) :
    step ⟨t :: u :: rest, .sequenceEntry since, pending, handles⟩ =
      node ⟨u :: rest, .sequenceEntry since, .sequenceEntry since :: pending, handles⟩ true
        false := by
  have hentry := hu.blockEntry rfl
  have hend := hu.blockEnd
  unfold step
  simp only [ht]
  rfl

lemma step_plainSequenceEntry (t u : Token) (ht : t.kind = .blockEntry)
    (hu : StartsNode false u) :
    step ⟨t :: u :: rest, .plainSequenceEntry, pending, handles⟩ =
      node ⟨u :: rest, .plainSequenceEntry, .plainSequenceEntry :: pending, handles⟩ true
        false := by
  have hentry := hu.blockEntry rfl
  have hend := hu.blockEnd
  have hkey := hu.key
  have hvalue := hu.value
  unfold step
  simp only [ht]
  rfl

lemma step_plainSequenceEnd (t : Token) (ht : t.kind ≠ .blockEntry) :
    step ⟨t :: rest, .plainSequenceEntry, next :: pending, handles⟩ =
      .event ⟨.sequenceEnd, t.mark⟩ ⟨t :: rest, next, pending, handles⟩ := by
  unfold step
  simp only
  rfl

/-- A sequence is empty, or its bounds are shown, or its items stand in the column of a mapping. -/
lemma parses_sequence {depth : Nat} {xs : List Value} (hlegible : ∀ x ∈ xs, Legible depth x)
    (hparses : ∀ x ∈ xs, Parses x) : Parses (.sequence xs) := by
  intro flush entries ts rest expected next pending handles g hts hflush hstep
  cases xs with
  | nil =>
    obtain ⟨⟨_, m⟩, ts₁, rfl, rfl, hts₁⟩ := List.map_eq_cons_iff.mp hts
    obtain ⟨⟨_, m'⟩, ts₂, rfl, rfl, hts₂⟩ := List.map_eq_cons_iff.mp hts₁
    obtain rfl := List.map_eq_nil_iff.mp hts₂
    exact .step hstep (.single rfl)
  | cons x xs =>
    cases flush with
    | true =>
      obtain ⟨rfl, u, hu, hne⟩ := hflush rfl
      obtain ⟨rest, rfl⟩ : ∃ rest', rest = u :: rest' := by
        cases rest with
        | nil => simp at hu
        | cons u' rest => exact ⟨rest, by simpa using hu⟩
      rw [Value.tokens, if_pos rfl] at hts
      have hitems : Emits ⟨ts ++ u :: rest, .plainSequenceEntry, next :: pending, handles⟩
          (itemEvents (x :: xs)) ⟨u :: rest, .plainSequenceEntry, next :: pending, handles⟩ :=
        emits_items (fun t u _ => step_plainSequenceEntry t u) hlegible hparses hts
      rw [itemTokens] at hts
      obtain ⟨⟨_, m⟩, ts₁, rfl, rfl, -⟩ := List.map_eq_cons_iff.mp hts
      exact .step hstep (hitems.trans (.single (step_plainSequenceEnd u hne)))
    | false =>
      rw [Value.tokens, if_neg (by simp), List.cons_append] at hts
      obtain ⟨⟨_, m⟩, ts₀, rfl, rfl, hts₀⟩ := List.map_eq_cons_iff.mp hts
      obtain ⟨ts₁, ts₂, rfl, hts₁, hts₂⟩ := List.map_eq_append_iff.mp hts₀
      obtain ⟨⟨_, m'⟩, ts₃, rfl, rfl, hts₃⟩ := List.map_eq_cons_iff.mp hts₂
      obtain rfl := List.map_eq_nil_iff.mp hts₃
      have hitems : Emits ⟨ts₁ ++ ⟨.blockEnd, m'⟩ :: rest, .sequenceEntry m, next :: pending, handles⟩
          (itemEvents (x :: xs))
          ⟨⟨.blockEnd, m'⟩ :: rest, .sequenceEntry m, next :: pending, handles⟩ :=
        emits_items (fun t u _ => step_sequenceEntry t u) hlegible hparses hts₁
      rw [List.cons_append, List.append_assoc] at hstep
      exact .step hstep (hitems.trans (.single rfl))

/-! ## Mappings -/

lemma step_mappingKey (t u : Token) (ht : t.kind = .key) (hu : StartsNode false u) :
    step ⟨t :: u :: rest, .mappingKey since, pending, handles⟩ =
      node ⟨u :: rest, .mappingKey since, .mappingValue since :: pending, handles⟩ true true := by
  have hend := hu.blockEnd
  have hkey := hu.key
  have hvalue := hu.value
  unfold step
  simp only [ht]
  rfl

lemma step_mappingValue {flush : Bool} (t u : Token) (ht : t.kind = .value)
    (hu : StartsNode flush u) :
    step ⟨t :: u :: rest, .mappingValue since, pending, handles⟩ =
      node ⟨u :: rest, .mappingValue since, .mappingKey since :: pending, handles⟩ true true := by
  have hend := hu.blockEnd
  have hkey := hu.key
  have hvalue := hu.value
  unfold step
  simp only [ht]
  rfl

/-- The pairs of a mapping, up to its end. -/
lemma emits_entries {depth : Nat} {es : Entries} (hkeys : ∀ e ∈ es, ∃ s, e.1 = .string s)
    (hlegible : ∀ e ∈ es, Legible depth e.2) (hparses : ∀ e ∈ es, Parses e.2)
    (hts : ts.map (·.kind) = entryTokens es) (ht : t.kind = .blockEnd) :
    Emits ⟨ts ++ t :: rest, .mappingKey since, pending, handles⟩ (entryEvents es)
      ⟨t :: rest, .mappingKey since, pending, handles⟩ := by
  induction es generalizing ts with
  | nil =>
    obtain rfl := List.map_eq_nil_iff.mp hts
    exact .refl _
  | cons e es ih =>
    obtain ⟨k, v⟩ := e
    obtain ⟨s, rfl⟩ : ∃ s, k = .string s := hkeys (k, v) (by simp)
    obtain ⟨a, ts₀, rfl, ha, hts₀⟩ := List.map_eq_cons_iff.mp hts
    obtain ⟨tk, ts₁, rfl, htk, hts₁⟩ := List.map_eq_append_iff.mp hts₀
    obtain ⟨b, ts₂, rfl, hb, hts₂⟩ := List.map_eq_cons_iff.mp hts₁
    obtain ⟨tv, ts', rfl, htv, hts'⟩ := List.map_eq_append_iff.mp hts₂
    obtain ⟨u, tk', rfl, hu⟩ := exists_startsNode (.string depth s) htk
    obtain ⟨w, tv', rfl, hw⟩ := exists_startsNode (hlegible (.string s, v) (by simp)) htv
    have hes := ih (fun e he => hkeys e (by simp [he])) (fun e he => hlegible e (by simp [he]))
      (fun e he => hparses e (by simp [he])) hts'
    -- behind a value there is a further key, or the end of the mapping
    have hnext : ∃ t' ∈ (ts' ++ t :: rest).head?, t'.kind ≠ .blockEntry := by
      cases es with
      | nil =>
        obtain rfl := List.map_eq_nil_iff.mp hts'
        exact ⟨t, rfl, by simp [ht]⟩
      | cons e es =>
        obtain ⟨c, ts₃, rfl, hc, -⟩ := List.map_eq_cons_iff.mp hts'
        exact ⟨c, rfl, by simp [hc]⟩
    have hkey : Emits
        ⟨a :: (u :: tk' ++ (b :: (w :: tv' ++ (ts' ++ t :: rest)))), .mappingKey since, pending,
          handles⟩
        (Value.string s).events
        ⟨b :: (w :: tv' ++ (ts' ++ t :: rest)), .mappingValue since, pending, handles⟩ :=
      parses_of_scalar? (v := .string s) rfl htk (by simp) (step_mappingKey a u ha hu)
    have hvalue : Emits
        ⟨b :: (w :: tv' ++ (ts' ++ t :: rest)), .mappingValue since, pending, handles⟩ v.events
        ⟨ts' ++ t :: rest, .mappingKey since, pending, handles⟩ :=
      hparses (.string s, v) (by simp) htv (fun _ => ⟨rfl, hnext⟩) (step_mappingValue b w hb hw)
    rw [entryEvents]
    simpa using hkey.trans (hvalue.trans hes)

lemma parses_mapping {depth : Nat} {es : Entries} (hkeys : ∀ e ∈ es, ∃ s, e.1 = .string s)
    (hlegible : ∀ e ∈ es, Legible depth e.2) (hparses : ∀ e ∈ es, Parses e.2) :
    Parses (.mapping es) := by
  intro flush entries ts rest expected next pending handles g hts _ hstep
  cases es with
  | nil =>
    obtain ⟨⟨_, m⟩, ts₁, rfl, rfl, hts₁⟩ := List.map_eq_cons_iff.mp hts
    obtain ⟨⟨_, m'⟩, ts₂, rfl, rfl, hts₂⟩ := List.map_eq_cons_iff.mp hts₁
    obtain rfl := List.map_eq_nil_iff.mp hts₂
    exact .step hstep (.single rfl)
  | cons e es =>
    rw [Value.tokens, List.cons_append] at hts
    obtain ⟨⟨_, m⟩, ts₀, rfl, rfl, hts₀⟩ := List.map_eq_cons_iff.mp hts
    obtain ⟨ts₁, ts₂, rfl, hts₁, hts₂⟩ := List.map_eq_append_iff.mp hts₀
    obtain ⟨⟨_, m'⟩, ts₃, rfl, rfl, hts₃⟩ := List.map_eq_cons_iff.mp hts₂
    obtain rfl := List.map_eq_nil_iff.mp hts₃
    have hentries : Emits ⟨ts₁ ++ ⟨.blockEnd, m'⟩ :: rest, .mappingKey m, next :: pending, handles⟩
        (entryEvents (e :: es))
        ⟨⟨.blockEnd, m'⟩ :: rest, .mappingKey m, next :: pending, handles⟩ :=
      emits_entries hkeys hlegible hparses hts₁ rfl
    rw [List.cons_append, List.append_assoc] at hstep
    exact .step hstep (hentries.trans (.single rfl))

/-- Over the tokens of a legible value, the grammar gives its events. -/
theorem parses {depth : Nat} {v : Value} (h : Legible depth v) : Parses v := by
  induction h with
  | null | int | float | string => exact parses_of_scalar? rfl
  | bool _ b => cases b <;> exact parses_of_scalar? rfl
  | sequence hitems ih => exact parses_sequence hitems ih
  | mapping hkeys _ hvalues ih => exact parses_mapping hkeys hvalues ih

end Grammar

/-! ## The events of a value -/

/-- The item of an event inside a document, for an event without an anchor. -/
def EventKind.item? : EventKind → Option ItemKind
  | .scalar none tag text form => some (.scalar tag (String.ofList text) form)
  | .sequenceStart none tag => some (.sequenceStart tag)
  | .sequenceEnd => some .sequenceEnd
  | .mappingStart none tag => some (.mappingStart tag)
  | .mappingEnd => some .mappingEnd
  | _ => none

lemma item?_of_mem_itemEvents {xs : List Value}
    (h : ∀ x ∈ xs, ∀ kind ∈ x.events, kind.item?.isSome = true) :
    ∀ kind ∈ itemEvents xs, kind.item?.isSome = true := by
  induction xs with
  | nil => simp [itemEvents]
  | cons x xs ih =>
    intro kind hkind
    rcases List.mem_append.mp hkind with hkind | hkind
    · exact h x (by simp) kind hkind
    · exact ih (fun y hy => h y (by simp [hy])) kind hkind

lemma item?_of_mem_entryEvents {es : Entries}
    (h : ∀ e ∈ es, ∀ kind ∈ e.1.events ++ e.2.events, kind.item?.isSome = true) :
    ∀ kind ∈ entryEvents es, kind.item?.isSome = true := by
  induction es with
  | nil => simp [entryEvents]
  | cons e es ih =>
    intro kind hkind
    obtain ⟨k, v⟩ := e
    rw [entryEvents, ← List.append_assoc] at hkind
    rcases List.mem_append.mp hkind with hkind | hkind
    · exact h (k, v) (by simp) kind hkind
    · exact ih (fun e he => h e (by simp [he])) kind hkind

lemma item?_of_scalar? {v : Value} {text : List Char} {wished : Style}
    (h : v.scalar? = some (text, wished)) : ∀ kind ∈ v.events, kind.item?.isSome = true := by
  rw [events_of_scalar? h]
  simp [EventKind.item?]

/-- All events of a value are inside its document. -/
lemma Legible.item?_of_mem_events {depth : Nat} {v : Value} (h : Legible depth v) :
    ∀ kind ∈ v.events, kind.item?.isSome = true := by
  induction h with
  | null | int | float | string => exact item?_of_scalar? rfl
  | bool _ b => cases b <;> exact item?_of_scalar? rfl
  | sequence _ ih =>
    intro kind hkind
    rw [Value.events, List.cons_append, List.mem_cons, List.mem_append, List.mem_singleton] at hkind
    rcases hkind with rfl | hkind | rfl
    · rfl
    · exact item?_of_mem_itemEvents ih kind hkind
    · rfl
  | mapping hkeys _ _ ih =>
    intro kind hkind
    rw [Value.events, List.cons_append, List.mem_cons, List.mem_append, List.mem_singleton] at hkind
    rcases hkind with rfl | hkind | rfl
    · rfl
    · refine item?_of_mem_entryEvents (fun e he kind hkind => ?_) kind hkind
      rcases List.mem_append.mp hkind with hkind | hkind
      · obtain ⟨s, hs⟩ := hkeys e he
        rw [hs] at hkind
        exact item?_of_scalar? rfl kind hkind
      · exact ih e he kind hkind
    · rfl

/-! ## Documents -/

variable {depth : Nat} {e : Value × Value} {es : Entries}

/-- The tokens of a document give its events, up to the end of the stream. -/
lemma Legible.emits_document (h : Legible (depth + 1) (.mapping (e :: es))) {ts : List Token}
    (hts : ts.map (·.kind) = (Value.mapping (e :: es)).tokens false) (m m' : Mark) :
    Grammar.Emits ⟨⟨.streamStart, m⟩ :: (ts ++ [⟨.streamEnd, m'⟩]), .streamStart, [], []⟩
      (.streamStart :: .documentStart :: ((Value.mapping (e :: es)).events ++ [.documentEnd]))
      ⟨[⟨.streamEnd, m'⟩], .document, [], []⟩ := by
  -- no directive and no marker stands in front of the mapping
  obtain ⟨⟨_, m''⟩, ts', rfl, rfl, -⟩ := List.map_eq_cons_iff.mp (Value.tokens.eq_def _ _ ▸ hts)
  have hmapping : Grammar.Emits
      ⟨⟨.blockMappingStart, m''⟩ :: ts' ++ [⟨.streamEnd, m'⟩], .blockNode, [.documentEnd],
        Grammar.defaultHandles⟩
      (Value.mapping (e :: es)).events
      ⟨[⟨.streamEnd, m'⟩], .documentEnd, [], Grammar.defaultHandles⟩ :=
    Grammar.parses h hts (by simp) (show Grammar.step _ = Grammar.node _ true false from rfl)
  exact .step rfl (.step rfl (hmapping.trans (.single rfl)))

/-- The events of a document, all of them. -/
theorem Legible.eventStream (h : Legible (depth + 1) (.mapping (e :: es))) :
    ∃ events, Event.stream (writtenEntries 0 [] (e :: es)) = (events, none) ∧
      events.map (·.kind) = .streamStart :: .documentStart ::
        ((Value.mapping (e :: es)).events ++ [.documentEnd, .streamEnd]) := by
  obtain ⟨ts, hstream, hts⟩ := h.stream
  have hcount : ts.length = ((Value.mapping (e :: es)).tokens false).length + 2 := by
    have := congrArg List.length hts
    simpa using this
  have hbound := h.length_events false
  obtain ⟨⟨_, m⟩, ts₀, rfl, rfl, hts₀⟩ := List.map_eq_cons_iff.mp hts
  obtain ⟨ts₁, ts₂, rfl, hts₁, hts₂⟩ := List.map_eq_append_iff.mp hts₀
  obtain ⟨⟨_, m'⟩, ts₃, rfl, rfl, hts₃⟩ := List.map_eq_cons_iff.mp hts₂
  obtain rfl := List.map_eq_nil_iff.mp hts₃
  have hemits := h.emits_document hts₁ m m'
  have hend : EventKind.streamEnd ∉
      (.streamStart :: .documentStart :: ((Value.mapping (e :: es)).events ++ [.documentEnd]) :
        List EventKind) := by
    have hnot : EventKind.streamEnd ∉ (Value.mapping (e :: es)).events := fun hmem =>
      absurd (h.item?_of_mem_events _ hmem) (by decide)
    simpa using hnot
  generalize hkinds : (.streamStart :: .documentStart ::
    ((Value.mapping (e :: es)).events ++ [.documentEnd]) : List EventKind) = kinds at hemits hend
  have hlength : kinds.length = (Value.mapping (e :: es)).events.length + 3 := by
    simp [← hkinds]
  -- a step for each event, and there are no more events than the bound lets through
  obtain ⟨fuel, hfuel⟩ : ∃ fuel, 4 * (((Value.mapping (e :: es)).tokens false).length + 2) + 8 =
      kinds.length + (fuel + 1) :=
    ⟨4 * (((Value.mapping (e :: es)).tokens false).length + 2) + 8 - (kinds.length + 1), by omega⟩
  obtain ⟨events, hevents, hrun⟩ := Grammar.run_of_emits none (fuel + 1) hemits hend
  refine ⟨events ++ [⟨.streamEnd, m'⟩], ?_, ?_⟩
  · unfold Event.stream
    simp only [hstream, hcount, hfuel, hrun]
    rfl
  · simp [hevents, ← hkinds]

end Sidecars.Yaml
