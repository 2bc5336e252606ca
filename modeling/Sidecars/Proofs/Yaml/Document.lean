import Sidecars.Proofs.Yaml.Event

/-!
# Reading a written document

What is written is read back: the items of the events are gathered, and the value is built from
them.

* `Value.reread` is what a value is read back as: the value itself but for floating-point numbers;
* `Builds depth v`: the items of `v` make `v.reread`, wherever they stand;
* `scalarValue_of_scalar?` says that no other scalar is taken for something else;
* `read_of_stream` reads a text from its events, `Legible.read` a document that was written, and
  `Portable.read` a document without floating-point numbers.
-/

namespace Sidecars.Yaml

variable {depth : Nat} {v : Value} {t : List Char} {wished : Style} {es : Entries}

/-! ## What a value is read back as -/

mutual

/-- What a written value is read back as.  The text of a floating-point number is read by its own
meaning. -/
def Value.reread : Value → Value
  | .float x => (plainValue (String.ofList (floatText x))).toOption.getD (.float x)
  | .sequence xs => .sequence (rereadItems xs)
  | .mapping es => .mapping (rereadEntries es)
  | .tagged tag v => .tagged tag (Value.reread v)
  | v => v

/-- What the items of a sequence are read back as. -/
def rereadItems : List Value → List Value
  | [] => []
  | x :: xs => Value.reread x :: rereadItems xs

/-- What the pairs of a mapping are read back as. -/
def rereadEntries : List (Value × Value) → List (Value × Value)
  | [] => []
  | (k, v) :: es => (k, Value.reread v) :: rereadEntries es

end

lemma rereadItems_eq_self {xs : List Value} (h : ∀ x ∈ xs, x.reread = x) :
    rereadItems xs = xs := by
  induction xs with
  | nil => rfl
  | cons x xs ih => rw [rereadItems, h x (by simp), ih fun y hy => h y (by simp [hy])]

lemma rereadEntries_eq_self (h : ∀ e ∈ es, e.2.reread = e.2) : rereadEntries es = es := by
  induction es with
  | nil => rfl
  | cons e es ih =>
    obtain ⟨k, v⟩ := e
    have hv : v.reread = v := h (k, v) (by simp)
    rw [rereadEntries, hv, ih fun e he => h e (by simp [he])]

/-- A portable value is read back as itself. -/
theorem Portable.reread_eq (h : Portable depth v) : v.reread = v := by
  induction h with
  | null | bool | int | string => rfl
  | sequence _ ih => rw [Value.reread, rereadItems_eq_self ih]
  | mapping _ _ _ ih => rw [Value.reread, rereadEntries_eq_self ih]

/-! ## Gathering -/

/-- The item of an event with its place. -/
def Event.item? (e : Event) : Option Item := e.kind.item?.map (⟨·, e.mark⟩)

lemma kind_items (events : List Event) :
    (events.filterMap Event.item?).map (·.kind) =
      (events.map (·.kind)).filterMap EventKind.item? := by
  rw [List.map_filterMap, List.filterMap_map]
  congr 1
  funext e
  cases h : e.kind.item? <;> simp [Event.item?, h]

lemma Gathered.document_cons (first : Bool) (ended : Option Fault) (g : Gathered) (mark : Mark)
    (rest : List Event) {kind : EventKind} {item : ItemKind} (h : kind.item? = some item) :
    document first ended g (⟨kind, mark⟩ :: rest) =
      document first ended (g.push item mark) rest := by
  unfold EventKind.item? at h
  split at h <;> cases h <;> rfl

/-- The events of values are gathered one by one. -/
lemma Gathered.document_append (first : Bool) (ended : Option Fault) (g : Gathered)
    {events : List Event} (rest : List Event)
    (h : ∀ e ∈ events, e.kind.item?.isSome = true) :
    document first ended g (events ++ rest) =
      document first ended { g with items := g.items ++ events.filterMap Event.item? } rest := by
  induction events generalizing g with
  | nil => simp
  | cons e events ih =>
    obtain ⟨kind, mark⟩ := e
    obtain ⟨item, hitem⟩ := Option.isSome_iff_exists.mp (h ⟨kind, mark⟩ (by simp))
    have hone : Event.item? ⟨kind, mark⟩ = some ⟨item, mark⟩ := by simp [Event.item?, hitem]
    rw [List.cons_append, document_cons _ _ _ _ _ hitem, ih _ fun e' he' => h e' (by simp [he']),
      List.filterMap_cons_some hone]
    simp [push]

/-! ## Scalars -/

lemma form_of_allowsPlain (h : (Traits.of t).allowsPlain = true) : Style.plain.form t = .plain := by
  rw [Style.form, if_pos (Style.choose_eq_plain_iff.mpr ⟨rfl, h, .inr rfl⟩)]

lemma scalarValue_plain (text : String) : scalarValue false none text .plain = plainValue text := rfl

/-- A text is written plain only if it means nothing else. -/
lemma scalarValue_string (s : String) :
    scalarValue false none s ((Style.wish s).form s.toList) = .ok (.string s) := by
  unfold Style.form
  split
  · rename_i hplain
    have hwish := (Style.choose_eq_plain_iff.mp hplain).1
    have hmeaning : Scalar.meaning s = .text := by
      unfold Style.wish at hwish
      split at hwish
      · simp at hwish
      · split at hwish
        · simp at hwish
        · rename_i h
          simp only [Bool.or_eq_true, decide_eq_true_eq, not_or, Decidable.not_not] at h
          exact h.1
    rw [scalarValue_plain, plainValue, hmeaning]
  · rfl

/-- Floating-point numbers apart, no scalar is taken for something else. -/
lemma scalarValue_of_scalar? (h : Legible depth v) (hv : v.scalar? = some (t, wished)) :
    scalarValue false none (String.ofList t) (wished.form t) = .ok v.reread := by
  cases h with
  | null =>
    obtain ⟨rfl, rfl⟩ := Prod.mk.inj (Option.some.inj hv)
    rw [form_of_allowsPlain (by decide)]
    rfl
  | bool _ b =>
    cases b <;> obtain ⟨rfl, rfl⟩ := Prod.mk.inj (Option.some.inj hv) <;>
      rw [form_of_allowsPlain (by decide)] <;> rfl
  | int _ hlow hhigh =>
    obtain ⟨rfl, rfl⟩ := Prod.mk.inj (Option.some.inj hv)
    rw [form_of_allowsPlain (Scalar.isNumeral_toString _).isNumber.allowsPlain, scalarValue_plain,
      String.ofList_toList, plainValue, Scalar.meaning_toString hlow hhigh]
    rfl
  | float _ x =>
    obtain ⟨rfl, rfl⟩ := Prod.mk.inj (Option.some.inj hv)
    obtain ⟨w, hw⟩ := exists_plainValue x
    rw [form_of_allowsPlain (isFractional_floatText x).number.allowsPlain, scalarValue_plain,
      Value.reread, hw]
    rfl
  | string _ s =>
    obtain ⟨rfl, rfl⟩ := Prod.mk.inj (Option.some.inj hv)
    rw [String.ofList_toList]
    exact scalarValue_string s
  | sequence | mapping => simp [Value.scalar?] at hv

/-! ## Building -/

/-- The items of a value make what it is read back as, with values nesting at most `depth` deep. -/
def Builds (depth : Nat) (v : Value) : Prop :=
  ∀ ⦃doc : Gathered⦄ ⦃fuel repeats : Nat⦄ ⦃path : List Step⦄ ⦃items rest : List Item⦄,
    items.map (·.kind) = v.events.filterMap EventKind.item? → items.length ≤ fuel →
      buildValue doc fuel depth path false ⟨items ++ rest, repeats⟩ =
        .ok (v.reread, ⟨rest, repeats⟩)

lemma builds_of_scalar? (h : Legible depth v) (hv : v.scalar? = some (t, wished)) :
    Builds depth v := by
  intro doc fuel repeats path items rest hitems hfuel
  rw [events_of_scalar? hv] at hitems
  obtain ⟨⟨_, m⟩, items, rfl, rfl, hnil⟩ := List.map_eq_cons_iff.mp hitems
  obtain rfl := List.map_eq_nil_iff.mp hnil
  obtain ⟨fuel, rfl⟩ : ∃ fuel', fuel = fuel' + 1 := ⟨fuel - 1, by simp at hfuel; omega⟩
  simp [buildValue, applicationTag?, scalarValue_of_scalar? h hv]

/-- The items of a value do not start with an end. -/
lemma exists_item (h : Legible depth v) {items : List Item}
    (hitems : items.map (·.kind) = v.events.filterMap EventKind.item?) :
    ∃ item items', items = item :: items' ∧ item.kind ≠ .sequenceEnd ∧
      item.kind ≠ .mappingEnd := by
  have hcons {kind : ItemKind} {kinds : List ItemKind}
      (hkinds : v.events.filterMap EventKind.item? = kind :: kinds)
      (hkind : kind ∉ [.sequenceEnd, .mappingEnd]) :
      ∃ item items', items = item :: items' ∧ item.kind ≠ .sequenceEnd ∧
        item.kind ≠ .mappingEnd := by
    rw [hkinds] at hitems
    obtain ⟨item, items', rfl, rfl, -⟩ := List.map_eq_cons_iff.mp hitems
    exact ⟨item, items', rfl, by simpa using hkind⟩
  cases h with
  | null | int | float | string => exact hcons (by rw [events_of_scalar? rfl]; rfl) (by simp)
  | bool _ b => cases b <;> exact hcons (by rw [events_of_scalar? rfl]; rfl) (by simp)
  | sequence => exact hcons (by rw [Value.events]; rfl) (by simp)
  | mapping => exact hcons (by rw [Value.events]; rfl) (by simp)

variable {doc : Gathered} {fuel repeats : Nat} {path : List Step} {items rest : List Item}
  {mark : Mark}

/-- The items of a sequence, up to its end. -/
lemma sequenceItems_eq {xs : List Value} (hlegible : ∀ x ∈ xs, Legible depth x)
    (hbuilds : ∀ x ∈ xs, Builds depth x)
    (hitems : items.map (·.kind) = (itemEvents xs).filterMap EventKind.item?)
    (hfuel : items.length + 1 ≤ fuel) (index : Nat) :
    buildValue.sequenceItems doc fuel depth path index
        ⟨items ++ ⟨.sequenceEnd, mark⟩ :: rest, repeats⟩ =
      .ok (rereadItems xs, ⟨rest, repeats⟩) := by
  obtain ⟨fuel, rfl⟩ : ∃ fuel', fuel = fuel' + 1 := ⟨fuel - 1, by omega⟩
  induction xs generalizing fuel items index with
  | nil =>
    obtain rfl := List.map_eq_nil_iff.mp hitems
    simp [buildValue.sequenceItems, rereadItems]
  | cons x xs ih =>
    rw [itemEvents, List.filterMap_append] at hitems
    obtain ⟨first, others, rfl, hfirst, hothers⟩ := List.map_eq_append_iff.mp hitems
    obtain ⟨item, first', hcons, hend, -⟩ := exists_item (hlegible x (by simp)) hfirst
    have hpos : 0 < first.length := by simp [hcons]
    rw [List.length_append] at hfuel
    obtain ⟨fuel, rfl⟩ : ∃ fuel', fuel = fuel' + 1 := ⟨fuel - 1, by omega⟩
    have hx : buildValue doc (fuel + 1) depth (.index index :: path) false
        ⟨first ++ (others ++ ⟨.sequenceEnd, mark⟩ :: rest), repeats⟩ =
          .ok (x.reread, ⟨others ++ ⟨.sequenceEnd, mark⟩ :: rest, repeats⟩) :=
      hbuilds x (by simp) hfirst (by omega)
    have hxs := ih (fun y hy => hlegible y (by simp [hy])) (fun y hy => hbuilds y (by simp [hy]))
      hothers (index + 1) fuel (by omega)
    subst hcons
    simp only [List.cons_append, List.append_assoc] at hx ⊢
    simp only [buildValue.sequenceItems, if_neg hend, hx, hxs, Bind.bind, Except.bind, pure,
      Except.pure, rereadItems]

/-- A text is bound only by an equal text. -/
lemma binds_eq_false {acc : Entries} {s : String} (hkeys : ∀ e ∈ acc, ∃ s, e.1 = .string s)
    (h : Value.string s ∉ acc.map (·.1)) : acc.binds (.string s) = false := by
  rw [Entries.binds, List.any_eq_false]
  intro e he
  obtain ⟨s', hs'⟩ := hkeys e he
  have hne : s' ≠ s := by
    rintro rfl
    exact h (List.mem_map.mpr ⟨e, he, hs'⟩)
  simp [hs', Value.same, hne]

/-- The pairs of a mapping behind those read so far, up to its end. -/
lemma mappingEntries_eq {acc : Entries} {since : Mark}
    (hkeys : ∀ k ∈ acc.map (·.1) ++ es.map (·.1), ∃ s, k = .string s)
    (hdistinct : (acc.map (·.1) ++ es.map (·.1)).Nodup)
    (hbuilds : ∀ e ∈ es, Builds depth e.2)
    (hitems : items.map (·.kind) = (entryEvents es).filterMap EventKind.item?)
    (hfuel : items.length + 1 ≤ fuel) :
    buildValue.mappingEntries doc fuel depth path since acc
        ⟨items ++ ⟨.mappingEnd, mark⟩ :: rest, repeats⟩ =
      .ok (acc ++ rereadEntries es, ⟨rest, repeats⟩) := by
  obtain ⟨fuel, rfl⟩ : ∃ fuel', fuel = fuel' + 1 := ⟨fuel - 1, by omega⟩
  induction es generalizing fuel items acc with
  | nil =>
    obtain rfl := List.map_eq_nil_iff.mp hitems
    simp [buildValue.mappingEntries, rereadEntries]
  | cons e es ih =>
    obtain ⟨k, v⟩ := e
    obtain ⟨s, rfl⟩ : ∃ s, k = .string s := hkeys k (by simp)
    rw [entryEvents, List.filterMap_append, List.filterMap_append] at hitems
    obtain ⟨first, others', rfl, hfirst, hothers'⟩ := List.map_eq_append_iff.mp hitems
    obtain ⟨second, others, rfl, hsecond, hothers⟩ := List.map_eq_append_iff.mp hothers'
    obtain ⟨item, first', hcons, -, hend⟩ := exists_item (.string depth s) hfirst
    have hpos : 0 < first.length := by simp [hcons]
    rw [List.length_append, List.length_append] at hfuel
    obtain ⟨fuel, rfl⟩ : ∃ fuel', fuel = fuel' + 1 := ⟨fuel - 1, by omega⟩
    have hkey : buildValue doc (fuel + 1) depth path false
        ⟨first ++ (second ++ (others ++ ⟨.mappingEnd, mark⟩ :: rest)), repeats⟩ =
          .ok (.string s, ⟨second ++ (others ++ ⟨.mappingEnd, mark⟩ :: rest), repeats⟩) :=
      builds_of_scalar? (.string depth s) rfl hfirst (by omega)
    have hvalue (step : Step) : buildValue doc (fuel + 1) depth (step :: path) false
        ⟨second ++ (others ++ ⟨.mappingEnd, mark⟩ :: rest), repeats⟩ =
          .ok (v.reread, ⟨others ++ ⟨.mappingEnd, mark⟩ :: rest, repeats⟩) :=
      hbuilds (.string s, v) (by simp) hsecond (by omega)
    have hbinds : acc.binds (.string s) = false := by
      refine binds_eq_false (fun e he => hkeys e.1 ?_) fun hmem => ?_
      · exact List.mem_append_left _ (List.mem_map_of_mem he)
      · rw [List.nodup_append] at hdistinct
        exact hdistinct.2.2 _ hmem (.string s) (by simp) rfl
    -- the pair joins those read so far, under the same key
    have hsame : acc.map (·.1) ++ ((Value.string s, v) :: es).map (·.1) =
        (acc ++ [(Value.string s, v.reread)]).map (·.1) ++ es.map (·.1) := by simp
    rw [hsame] at hkeys hdistinct
    have hes := ih hkeys hdistinct (fun e he => hbuilds e (by simp [he])) hothers fuel (by omega)
    subst hcons
    simp only [List.cons_append, List.append_assoc] at hkey hes ⊢
    simp only [buildValue.mappingEntries, if_neg hend, hkey, hbinds, hvalue, hes, Bind.bind,
      Except.bind, rereadEntries]
    simp

/-- The items of a collection stand between its bounds. -/
lemma exists_inner {start stop : EventKind} {a b : ItemKind} {events : List EventKind}
    (ha : start.item? = some a) (hb : stop.item? = some b)
    (hitems : items.map (·.kind) = (start :: events ++ [stop]).filterMap EventKind.item?) :
    ∃ m inner m', items = ⟨a, m⟩ :: (inner ++ [⟨b, m'⟩]) ∧
      inner.map (·.kind) = events.filterMap EventKind.item? := by
  rw [List.cons_append, List.filterMap_cons_some ha, List.filterMap_append,
    List.filterMap_cons_some hb] at hitems
  obtain ⟨⟨_, m⟩, behind, rfl, rfl, hbehind⟩ := List.map_eq_cons_iff.mp hitems
  obtain ⟨inner, last, rfl, hinner, hlast⟩ := List.map_eq_append_iff.mp hbehind
  obtain ⟨⟨_, m'⟩, last', rfl, rfl, hnil⟩ := List.map_eq_cons_iff.mp hlast
  obtain rfl := List.map_eq_nil_iff.mp hnil
  exact ⟨m, inner, m', rfl, hinner⟩

/-- The items of a legible value make what it is read back as. -/
theorem builds (h : Legible depth v) : Builds depth v := by
  induction h with
  | null depth => exact builds_of_scalar? (.null depth) rfl
  | bool depth b => cases b <;> exact builds_of_scalar? (.bool depth _) rfl
  | int depth hlow hhigh => exact builds_of_scalar? (.int depth hlow hhigh) rfl
  | float depth x => exact builds_of_scalar? (.float depth x) rfl
  | string depth s => exact builds_of_scalar? (.string depth s) rfl
  | @sequence depth xs hlegible ih =>
    intro doc fuel repeats path items rest hitems hfuel
    rw [Value.events] at hitems
    obtain ⟨m, inner, m', rfl, hinner⟩ := exists_inner rfl rfl hitems
    simp only [List.length_cons, List.length_append, List.length_nil] at hfuel
    obtain ⟨fuel, rfl⟩ : ∃ fuel', fuel = fuel' + 1 := ⟨fuel - 1, by omega⟩
    have hxs : buildValue.sequenceItems doc fuel depth path 0
        ⟨inner ++ ⟨.sequenceEnd, m'⟩ :: rest, repeats⟩ =
          .ok (rereadItems xs, ⟨rest, repeats⟩) :=
      sequenceItems_eq hlegible ih hinner (by omega) 0
    simp [buildValue, applicationTag?, hxs, Value.reread, Bind.bind, Except.bind, pure,
      Except.pure]
  | @mapping depth es hkeys hdistinct _ ih =>
    intro doc fuel repeats path items rest hitems hfuel
    rw [Value.events] at hitems
    obtain ⟨m, inner, m', rfl, hinner⟩ := exists_inner rfl rfl hitems
    simp only [List.length_cons, List.length_append, List.length_nil] at hfuel
    obtain ⟨fuel, rfl⟩ : ∃ fuel', fuel = fuel' + 1 := ⟨fuel - 1, by omega⟩
    have hes : buildValue.mappingEntries doc fuel depth path m []
        ⟨inner ++ ⟨.mappingEnd, m'⟩ :: rest, repeats⟩ =
          .ok ([] ++ rereadEntries es, ⟨rest, repeats⟩) := by
      refine mappingEntries_eq (fun k hk => ?_) hdistinct ih hinner (by omega)
      obtain ⟨e, he, rfl⟩ := List.mem_map.mp hk
      exact hkeys e he
    simp [buildValue, applicationTag?, hes, Value.reread, Bind.bind, Except.bind, pure,
      Except.pure]

/-! ## Documents -/

/-- A text whose events are those of a legible value is read as what the value is read back as. -/
theorem read_of_stream {text : List Char} (h : Legible depthLimit v)
    (hended : (Event.stream text).2 = none)
    (hevents : (Event.stream text).1.map (·.kind) =
      .streamStart :: .documentStart :: (v.events ++ [.documentEnd, .streamEnd])) :
    Yaml.read text = .ok v.reread := by
  obtain ⟨events, hstream⟩ : ∃ events, Event.stream text = (events, none) :=
    ⟨_, Prod.ext rfl hended⟩
  rw [hstream] at hevents
  obtain ⟨⟨_, m₁⟩, events₁, rfl, rfl, h₁⟩ := List.map_eq_cons_iff.mp hevents
  obtain ⟨⟨_, m₂⟩, events₂, rfl, rfl, h₂⟩ := List.map_eq_cons_iff.mp h₁
  obtain ⟨inner, events₃, rfl, hinner, h₃⟩ := List.map_eq_append_iff.mp h₂
  obtain ⟨⟨_, m₃⟩, events₄, rfl, rfl, h₄⟩ := List.map_eq_cons_iff.mp h₃
  obtain ⟨⟨_, m₄⟩, events₅, rfl, rfl, h₅⟩ := List.map_eq_cons_iff.mp h₄
  obtain rfl := List.map_eq_nil_iff.mp h₅
  have hinside : ∀ event ∈ inner, event.kind.item?.isSome = true := fun event hevent =>
    h.item?_of_mem_events _ (hinner ▸ List.mem_map_of_mem hevent)
  have hgathered : Gathered.document true none .empty
      (⟨.streamStart, m₁⟩ :: ⟨.documentStart, m₂⟩ ::
        (inner ++ [⟨.documentEnd, m₃⟩, ⟨.streamEnd, m₄⟩])) =
      some (⟨inner.filterMap Event.item?, [], [], none⟩, [⟨.streamEnd, m₄⟩]) :=
    (Gathered.document_append true none .empty [⟨.documentEnd, m₃⟩, ⟨.streamEnd, m₄⟩] hinside).trans
      (by simp [Gathered.document, Gathered.empty])
  have hbuilt : buildValue ⟨inner.filterMap Event.item?, [], [], none⟩
      ((depthLimit + 4) * ((inner.filterMap Event.item?).length + 4)) depthLimit [] false
      ⟨inner.filterMap Event.item? ++ [], 0⟩ = .ok (v.reread, ⟨[], 0⟩) := by
    refine builds h ?_ ?_
    · rw [kind_items, hinner]
    · simp only [depthLimit]
      omega
  rw [List.append_nil] at hbuilt
  unfold Yaml.read
  simp only [hstream, hgathered, hbuilt, Bind.bind, Except.bind]
  rfl

/-- A document that was written is read back. -/
theorem Legible.read {e : Value × Value} (h : Legible depthLimit (.mapping (e :: es))) :
    Yaml.read (writtenEntries 0 [] (e :: es)) = .ok (Value.mapping (e :: es)).reread := by
  obtain ⟨events, hstream, hevents⟩ := Legible.eventStream h
  exact read_of_stream h (by rw [hstream]) (by rw [hstream, hevents])

/-- A document without floating-point numbers is read back as itself. -/
theorem Portable.read {e : Value × Value} (h : Portable depthLimit (.mapping (e :: es))) :
    Yaml.read (writtenEntries 0 [] (e :: es)) = .ok (.mapping (e :: es)) := by
  rw [h.legible.read, h.reread_eq]

end Sidecars.Yaml
