import Sidecars.Yaml.Event
import Sidecars.Yaml.Written
import Sidecars.Proofs.Yaml.Float
import Sidecars.Proofs.Yaml.Style

/-!
# Values that survive writing

A value is portable if it holds no floating-point number and no tag, its keys are texts, and it does
not nest too deep.  Such a value is written without loss.  With floating-point numbers it is only
legible: a number may be read as another one, and all the rest is read as it was.

* `Portable depth v` and `Legible depth v`: the value is portable, or legible, and nests at most
  `depth` collections;
* `Value.tokens` and `Value.events` are what is read when a written value is read back, as far as
  the grammar, up to places;
* `Legible.length_tokens` and `Legible.length_events` bound the number of steps by the length of
  the text.
-/

namespace Sidecars.Yaml

/-- A value without floating-point numbers and tags, with texts for keys, in which at most `depth`
collections nest. -/
inductive Portable : Nat → Value → Prop where
  | null (depth : Nat) : Portable depth .null
  | bool (depth : Nat) (b : Bool) : Portable depth (.bool b)
  | int (depth : Nat) {n : Int} (low : -2 ^ 63 ≤ n) (high : n < 2 ^ 64) : Portable depth (.int n)
  | string (depth : Nat) (s : String) : Portable depth (.string s)
  | sequence {depth : Nat} {xs : List Value} (items : ∀ x ∈ xs, Portable depth x) :
      Portable (depth + 1) (.sequence xs)
  | mapping {depth : Nat} {es : Entries} (keys : ∀ e ∈ es, ∃ s, e.1 = .string s)
      (distinct : (es.map (·.1)).Nodup) (values : ∀ e ∈ es, Portable depth e.2) :
      Portable (depth + 1) (.mapping es)

/-- A value without tags, with texts for keys, in which at most `depth` collections nest. -/
inductive Legible : Nat → Value → Prop where
  | null (depth : Nat) : Legible depth .null
  | bool (depth : Nat) (b : Bool) : Legible depth (.bool b)
  | int (depth : Nat) {n : Int} (low : -2 ^ 63 ≤ n) (high : n < 2 ^ 64) : Legible depth (.int n)
  | float (depth : Nat) (x : Binary64) : Legible depth (.float x)
  | string (depth : Nat) (s : String) : Legible depth (.string s)
  | sequence {depth : Nat} {xs : List Value} (items : ∀ x ∈ xs, Legible depth x) :
      Legible (depth + 1) (.sequence xs)
  | mapping {depth : Nat} {es : Entries} (keys : ∀ e ∈ es, ∃ s, e.1 = .string s)
      (distinct : (es.map (·.1)).Nodup) (values : ∀ e ∈ es, Legible depth e.2) :
      Legible (depth + 1) (.mapping es)

lemma Portable.legible {depth : Nat} {v : Value} (h : Portable depth v) : Legible depth v := by
  induction h with
  | null depth => exact .null depth
  | bool depth b => exact .bool depth b
  | int depth low high => exact .int depth low high
  | string depth s => exact .string depth s
  | sequence _ ih => exact .sequence ih
  | mapping keys distinct _ ih => exact .mapping keys distinct ih

/-! ## Scalars -/

variable {v : Value} {t : List Char} {wished : Style}

/-- Every scalar is written on the line of its indicator. -/
lemma written_of_scalar? (h : v.scalar? = some (t, wished)) (p : Place) :
    v.written p = scalarLine p.indent t wished := by
  cases v with
  | bool b =>
    cases b <;> obtain ⟨rfl, rfl⟩ := Prod.mk.inj (Option.some.inj h) <;> rfl
  | null | int | float | string =>
    obtain ⟨rfl, rfl⟩ := Prod.mk.inj (Option.some.inj h)
    rfl
  | sequence | mapping | tagged => simp [Value.scalar?] at h

/-- What is promised of a scalar: a text with line feeds asks for a block, and an empty text is not
asked to be plain. -/
structure Sound (t : List Char) (wished : Style) : Prop where
  meets : wished.Meets t
  empty : t = [] → wished ≠ .plain

lemma sound_of_allowsPlain (h : (Traits.of t).allowsPlain = true) (ht : t ≠ []) :
    Sound t .plain where
  meets hfeed := by
    have := (Traits.plainText_of_allowsPlain ht h).unbroken _ hfeed
    simp [isBreak_lineFeed] at this
  empty h := absurd h ht

lemma sound_string (s : String) : Sound s.toList (Style.wish s) where
  meets := Style.meets_wish s
  empty hs := by
    obtain rfl : s = "" := by simpa using hs
    decide

lemma Legible.sound {depth : Nat} (h : Legible depth v) (hv : v.scalar? = some (t, wished)) :
    Sound t wished := by
  cases h with
  | null =>
    obtain ⟨rfl, rfl⟩ := Prod.mk.inj (Option.some.inj hv)
    exact sound_of_allowsPlain (by decide) (by decide)
  | bool _ b =>
    cases b <;> obtain ⟨rfl, rfl⟩ := Prod.mk.inj (Option.some.inj hv) <;>
      exact sound_of_allowsPlain (by decide) (by decide)
  | int =>
    obtain ⟨rfl, rfl⟩ := Prod.mk.inj (Option.some.inj hv)
    have hnumber := (Scalar.isNumeral_toString ‹Int›).isNumber
    exact sound_of_allowsPlain hnumber.allowsPlain hnumber.ne_nil
  | float _ x =>
    obtain ⟨rfl, rfl⟩ := Prod.mk.inj (Option.some.inj hv)
    have hnumber := (isFractional_floatText x).number
    exact sound_of_allowsPlain hnumber.allowsPlain hnumber.ne_nil
  | string _ s =>
    obtain ⟨rfl, rfl⟩ := Prod.mk.inj (Option.some.inj hv)
    exact sound_string s
  | sequence | mapping => simp [Value.scalar?] at hv

/-! ## What is read back -/

/-- Whether a sequence at a place stands in the column of the mapping around it. -/
def Place.flush (p : Place) : Bool := p.inMapping && !p.compact

mutual

/-- The tokens of a written value; `flush` says whether a sequence would stand in the column of the
mapping around it, so that no tokens show its bounds. -/
def Value.tokens (flush : Bool) : Value → List TokenKind
  | .sequence [] => [.flowSequenceStart, .flowSequenceEnd]
  | .sequence (x :: xs) =>
    if flush then itemTokens (x :: xs)
    else .blockSequenceStart :: itemTokens (x :: xs) ++ [.blockEnd]
  | .mapping [] => [.flowMappingStart, .flowMappingEnd]
  | .mapping (e :: es) => .blockMappingStart :: entryTokens (e :: es) ++ [.blockEnd]
  | .tagged _ v => Value.tokens flush v
  | v => v.scalar?.toList.map fun (t, wished) => .scalar t (wished.form t)

/-- The tokens of the items of a sequence. -/
def itemTokens : List Value → List TokenKind
  | [] => []
  | x :: xs => .blockEntry :: (Value.tokens false x ++ itemTokens xs)

/-- The tokens of the pairs of a mapping. -/
def entryTokens : List (Value × Value) → List TokenKind
  | [] => []
  | (k, v) :: es =>
    .key :: (Value.tokens false k ++
      .value :: (Value.tokens k.simpleKey?.isSome v ++ entryTokens es))

end

mutual

/-- The events of a written value, without their places. -/
def Value.events : Value → List EventKind
  | .sequence xs => .sequenceStart none none :: itemEvents xs ++ [.sequenceEnd]
  | .mapping es => .mappingStart none none :: entryEvents es ++ [.mappingEnd]
  | .tagged _ v => Value.events v
  | v => v.scalar?.toList.map fun (t, wished) => .scalar none none t (wished.form t)

/-- The events of the items of a sequence. -/
def itemEvents : List Value → List EventKind
  | [] => []
  | x :: xs => Value.events x ++ itemEvents xs

/-- The events of the pairs of a mapping. -/
def entryEvents : List (Value × Value) → List EventKind
  | [] => []
  | (k, v) :: es => Value.events k ++ (Value.events v ++ entryEvents es)

end

lemma tokens_of_scalar? (h : v.scalar? = some (t, wished)) (flush : Bool) :
    v.tokens flush = [.scalar t (wished.form t)] := by
  cases v <;> simp_all [Value.scalar?, Value.tokens]

lemma events_of_scalar? (h : v.scalar? = some (t, wished)) :
    v.events = [.scalar none none t (wished.form t)] := by
  cases v <;> simp_all [Value.scalar?, Value.events]

/-! ## Bounds -/

lemma writtenItems_cons (indent : Nat) (lead : List Char) (x : Value) (xs : List Value) :
    writtenItems indent lead (x :: xs) = lead ++ writtenItems indent [] (x :: xs) := by
  simp [writtenItems]

lemma writtenEntries_cons (indent : Nat) (lead : List Char) (e : Value × Value) (es : Entries) :
    writtenEntries indent lead (e :: es) = lead ++ writtenEntries indent [] (e :: es) := by
  obtain ⟨k, v⟩ := e
  cases hk : k.simpleKey? <;> simp [writtenEntries, hk]

lemma length_lead_pos (p : Place) (n : Nat) : 0 < (p.lead n).length := by
  unfold Place.lead
  split <;> simp

lemma length_itemTokens {xs : List Value} (indent : Nat) (lead : List Char)
    (h : ∀ x ∈ xs, ∀ p : Place, (x.tokens p.flush).length ≤ 2 * (x.written p).length) :
    (itemTokens xs).length ≤ 2 * (writtenItems indent lead xs).length := by
  induction xs generalizing lead with
  | nil => simp [itemTokens]
  | cons x xs ih =>
    have hx : (x.tokens false).length ≤ _ := h x (by simp) ⟨indent, false, true⟩
    have hxs := ih (spaces indent) fun y hy => h y (by simp [hy])
    simp only [itemTokens, writtenItems, List.length_append, List.length_cons]
    omega

/-- A text stands in front of its colon if it is short and has no line break. -/
lemma simpleKey?_string {s : String} {text : List Char}
    (h : (Value.string s).simpleKey? = some text) :
    text = Quoting.write (Style.choose (Style.wish s) true s.toList) 0 s.toList ∧
      (∀ c ∈ s.toList, isBreak c = false) ∧
      (Text.Utf8.encodeChars s.toList).length ≤ 128 := by
  simp only [Value.simpleKey?, Value.key?, Value.scalar?, Option.bind_some] at h
  split at h
  · simp at h
  · rename_i hbreak
    simp only [Option.bind_some] at h
    split at h
    · rename_i hlength
      exact ⟨(Option.some.inj h).symm, by simpa using hbreak, hlength⟩
    · simp at h

lemma length_tokens_of_scalar? (h : v.scalar? = some (t, wished)) (p : Place) :
    (v.tokens p.flush).length ≤ 2 * (v.written p).length := by
  rw [tokens_of_scalar? h, written_of_scalar? h, scalarLine, List.length_singleton,
    List.length_cons]
  omega

lemma length_entryTokens {es : Entries} (indent : Nat) (lead : List Char)
    (hkeys : ∀ e ∈ es, ∃ s, e.1 = .string s)
    (h : ∀ e ∈ es, ∀ p : Place, (e.2.tokens p.flush).length ≤ 2 * (e.2.written p).length) :
    (entryTokens es).length ≤ 2 * (writtenEntries indent lead es).length := by
  induction es generalizing lead with
  | nil => simp [entryTokens]
  | cons e es ih =>
    obtain ⟨k, v⟩ := e
    obtain ⟨s, rfl⟩ : ∃ s, k = .string s := hkeys (k, v) (by simp)
    have hes := ih (spaces indent) (fun e he => hkeys e (by simp [he])) fun e he =>
      h e (by simp [he])
    have hone : ((Value.string s).tokens false).length = 1 := by
      rw [tokens_of_scalar? (v := .string s) rfl, List.length_singleton]
    cases hk : (Value.string s).simpleKey? with
    | some text =>
      obtain ⟨rfl, -⟩ := simpleKey?_string hk
      have hpos := List.length_pos_of_ne_nil (Style.write_key_ne_nil (sound_string s).empty)
      have hv : (v.tokens true).length ≤ 2 * (v.written ⟨indent, true, false⟩).length :=
        h (.string s, v) (by simp) ⟨indent, true, false⟩
      simp only [entryTokens, writtenEntries, hk, List.length_append, List.length_cons,
        Option.isSome]
      omega
    | none =>
      have hv : (v.tokens false).length ≤ 2 * (v.written ⟨indent, true, true⟩).length :=
        h (.string s, v) (by simp) ⟨indent, true, true⟩
      simp only [entryTokens, writtenEntries, hk, List.length_append, List.length_cons,
        Option.isSome]
      omega

/-- A written value has at most two tokens for each character. -/
theorem Legible.length_tokens {depth : Nat} (h : Legible depth v) (p : Place) :
    (v.tokens p.flush).length ≤ 2 * (v.written p).length := by
  induction h generalizing p with
  | null | int | float | string => exact length_tokens_of_scalar? rfl p
  | bool _ b => cases b <;> exact length_tokens_of_scalar? rfl p
  | @sequence _ xs _ ih =>
    cases xs with
    | nil => simp [Value.tokens, Value.written]
    | cons x xs =>
      have hlead := length_lead_pos p p.sequenceIndent
      have hitems := length_itemTokens p.sequenceIndent [] ih
      rw [Value.written, writtenItems_cons, Value.tokens]
      split
      · rw [List.length_append]
        omega
      · simp only [List.length_append, List.length_cons, List.length_nil]
        omega
  | @mapping _ es hkeys _ _ ih =>
    cases es with
    | nil => simp [Value.tokens, Value.written]
    | cons e es =>
      have hlead := length_lead_pos p p.mappingIndent
      have hentries := length_entryTokens p.mappingIndent [] hkeys ih
      rw [Value.written, writtenEntries_cons, Value.tokens]
      simp only [List.length_append, List.length_cons, List.length_nil]
      omega

lemma length_itemEvents {xs : List Value}
    (h : ∀ x ∈ xs, x.events.length ≤ 2 * (x.tokens false).length) :
    (itemEvents xs).length + 2 * xs.length ≤ 2 * (itemTokens xs).length := by
  induction xs with
  | nil => simp [itemEvents, itemTokens]
  | cons x xs ih =>
    have hx := h x (by simp)
    have hxs := ih fun y hy => h y (by simp [hy])
    simp only [itemEvents, itemTokens, List.length_append, List.length_cons]
    omega

lemma length_entryEvents {es : Entries}
    (hkeys : ∀ e ∈ es, e.1.events.length ≤ 2 * (e.1.tokens false).length)
    (h : ∀ e ∈ es, ∀ flush, e.2.events.length ≤ 2 * (e.2.tokens flush).length) :
    (entryEvents es).length ≤ 2 * (entryTokens es).length := by
  induction es with
  | nil => simp [entryEvents]
  | cons e es ih =>
    obtain ⟨k, v⟩ := e
    have hk : k.events.length ≤ 2 * (k.tokens false).length := hkeys (k, v) (by simp)
    have hv : v.events.length ≤ 2 * (v.tokens k.simpleKey?.isSome).length :=
      h (k, v) (by simp) k.simpleKey?.isSome
    have hes := ih (fun e he => hkeys e (by simp [he])) fun e he => h e (by simp [he])
    simp only [entryEvents, entryTokens, List.length_append, List.length_cons]
    omega

lemma length_events_of_scalar? (h : v.scalar? = some (t, wished)) (flush : Bool) :
    v.events.length ≤ 2 * (v.tokens flush).length := by
  rw [tokens_of_scalar? h, events_of_scalar? h, List.length_singleton, List.length_singleton]
  decide

/-- A written value has at most two events for each token. -/
theorem Legible.length_events {depth : Nat} (h : Legible depth v) (flush : Bool) :
    v.events.length ≤ 2 * (v.tokens flush).length := by
  induction h generalizing flush with
  | null | int | float | string => exact length_events_of_scalar? rfl flush
  | bool _ b => cases b <;> exact length_events_of_scalar? rfl flush
  | @sequence _ xs _ ih =>
    cases xs with
    | nil => simp [Value.tokens, Value.events, itemEvents]
    | cons x xs =>
      have hitems := length_itemEvents fun y hy => ih y hy false
      rw [Value.events, Value.tokens]
      simp only [List.length_append, List.length_cons, List.length_nil] at hitems ⊢
      split
      · omega
      · simp only [List.length_append, List.length_cons, List.length_nil]
        omega
  | @mapping _ es hkeys _ _ ih =>
    cases es with
    | nil => simp [Value.tokens, Value.events, entryEvents]
    | cons e es =>
      have hentries := length_entryEvents (fun e he => ?_) ih
      · rw [Value.events, Value.tokens]
        simp only [List.length_append, List.length_cons, List.length_nil]
        omega
      · obtain ⟨s, hs⟩ := hkeys e he
        rw [hs]
        exact length_events_of_scalar? rfl false

end Sidecars.Yaml
