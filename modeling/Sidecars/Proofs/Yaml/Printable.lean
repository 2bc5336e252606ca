import Sidecars.Proofs.Yaml.Portable
import Sidecars.Proofs.Yaml.Lexeme.Quoted

/-!
# The characters of a written text

A document is written with printable characters only, whatever the texts in it are: what cannot be
printed is escaped.  So nothing in it keeps it from being read.

* `isPrintable_of_mem_write` is the form of a scalar;
* `Shown` says of a text that it does not break its line either, and `shown_of_simpleKey?` has it of
  a short key;
* `Value.isPrintable_of_mem` is the text of a value.
-/

namespace Sidecars.Yaml

variable {c : Char} {t : List Char} {wished : Style} {inKey : Bool} {n : Nat}

/-! ## Texts on one line -/

/-- A text that is shown as it is, on one line. -/
def Shown (t : List Char) : Prop := ∀ c ∈ t, isPrintable c = true ∧ isBreak c = false

instance : Decidable (Shown t) :=
  List.decidableBAll (fun c => isPrintable c = true ∧ isBreak c = false) t

lemma Shown.printable (h : Shown t) : ∀ c ∈ t, isPrintable c = true := fun c hc => (h c hc).1

lemma Shown.unbroken (h : Shown t) : ∀ c ∈ t, isBreak c = false := fun c hc => (h c hc).2

lemma Shown.append {s : List Char} (hs : Shown s) (ht : Shown t) : Shown (s ++ t) :=
  List.forall_mem_append.mpr ⟨hs, ht⟩

/-! ## Scalars -/

lemma isPrintable_of_mem_spaces (h : c ∈ spaces n) : isPrintable c = true := by
  rw [List.eq_of_mem_replicate h]
  decide

lemma isPrintable_of_mem_indented {fresh : Bool} (ht : ∀ d ∈ t, isPrintable d = true)
    (h : c ∈ Quoting.indented n fresh t) : isPrintable c = true := by
  induction t generalizing fresh with
  | nil => simp [Quoting.indented] at h
  | cons d t ih =>
    have hd := ht d (by simp)
    have htail := fun fresh => @ih fresh fun e he => ht e (by simp [he])
    cases hbreak : isBreak d with
    | true =>
      rw [Quoting.indented_cons_break hbreak] at h
      rcases List.mem_cons.mp h with rfl | h
      · exact hd
      · exact htail _ h
    | false =>
      rw [Quoting.indented_cons hbreak] at h
      rcases List.mem_append.mp h with h | h
      · unfold Quoting.margin at h
        split at h
        · exact isPrintable_of_mem_spaces h
        · simp at h
      · rcases List.mem_cons.mp h with rfl | h
        · exact hd
        · exact htail _ h

lemma isPrintable_of_mem_single (ht : ∀ d ∈ t, isPrintable d = true)
    (h : c ∈ Quoting.single n t) : isPrintable c = true := by
  have hquote : isPrintable '\'' = true := by decide
  have hdoubled : ∀ d ∈ Quoting.doubled t, isPrintable d = true := fun d hd =>
    ht d (Quoting.mem_of_mem_doubled hd)
  simp only [Quoting.single, List.cons_append, List.mem_cons, List.mem_append, List.not_mem_nil,
    or_false] at h
  rcases h with rfl | (h | h) | rfl
  · exact hquote
  · exact isPrintable_of_mem_indented hdoubled h
  · split at h
    · exact isPrintable_of_mem_spaces h
    · simp at h
  · exact hquote

lemma shown_double (t : List Char) : Shown (Quoting.double t) := by
  have hquote : Shown ['"'] := by decide
  have hescaped : Shown (t.flatMap Quoting.escaped) := fun c hc => by
    obtain ⟨d, -, hcd⟩ := List.mem_flatMap.mp hc
    exact Lexeme.plain_of_mem_escaped hcd
  exact (hquote.append hescaped).append hquote

lemma mem_of_mem_hints (h : c ∈ Quoting.indentHint t ++ Quoting.chompHint t) :
    c ∈ ['2', '-', '+'] := by
  unfold Quoting.indentHint Quoting.chompHint at h
  rcases List.mem_append.mp h with h | h
  · split at h
    · split at h <;> simp_all
    · simp at h
  · split at h
    · simp_all
    · split at h <;> simp_all
    · split at h
      · simp_all
      · split at h <;> simp_all

lemma isPrintable_of_mem_hints (h : c ∈ Quoting.indentHint t ++ Quoting.chompHint t) :
    isPrintable c = true := by
  have hall : Shown ['2', '-', '+'] := by decide
  exact (hall c (mem_of_mem_hints h)).1

lemma isPrintable_of_mem_literal (ht : ∀ d ∈ t, isPrintable d = true)
    (h : c ∈ Quoting.literal n t) : isPrintable c = true := by
  have hbar : isPrintable '|' = true ∧ isPrintable '\n' = true := by decide
  rw [Quoting.literal, List.cons_append, List.cons_append] at h
  rcases List.mem_cons.mp h with rfl | h
  · exact hbar.1
  · rcases List.mem_append.mp h with h | h
    · exact isPrintable_of_mem_hints h
    · rcases List.mem_cons.mp h with rfl | h
      · exact hbar.2
      · exact isPrintable_of_mem_indented ht h

/-- What cannot be printed is escaped. -/
lemma isPrintable_of_mem_write (h : c ∈ Quoting.write (Style.choose wished inKey t) n t) :
    isPrintable c = true := by
  cases hstyle : Style.choose wished inKey t with
  | plain =>
    rw [hstyle, Quoting.write] at h
    exact (Style.plainText_of_choose (List.ne_nil_of_mem h) hstyle).printable c h
  | single =>
    rw [hstyle, Quoting.write] at h
    exact isPrintable_of_mem_single (Style.printable_of_choose_single hstyle) h
  | double =>
    rw [hstyle, Quoting.write] at h
    exact (shown_double t c h).1
  | literal =>
    rw [hstyle, Quoting.write] at h
    exact isPrintable_of_mem_literal (Style.literalText_of_choose hstyle).printable h

lemma isPrintable_of_mem_line (ht : ∀ d ∈ t, isPrintable d = true) (h : c ∈ t ++ ['\n']) :
    isPrintable c = true := by
  rcases List.mem_append.mp h with h | h
  · exact ht c h
  · rw [List.mem_singleton.mp h]
    decide

lemma isPrintable_of_mem_scalarLine (h : c ∈ scalarLine n t wished) : isPrintable c = true := by
  have hspace : isPrintable ' ' = true := by decide
  rw [scalarLine] at h
  rcases List.mem_cons.mp h with rfl | h
  · exact hspace
  · unfold Quoting.endLine at h
    split at h
    · exact isPrintable_of_mem_write h
    · exact isPrintable_of_mem_line (fun d hd => isPrintable_of_mem_write hd) h

/-! ## Tags and keys -/

lemma shown_tagByte : ∀ k < 256, Shown (tagByte (UInt8.ofNat k)) := by decide +kernel

/-- The bytes of a tag are shown or escaped. -/
lemma shown_tagText (name : String) : Shown (tagText name) := by
  unfold tagText
  split
  · decide
  · refine Shown.append (s := ['!']) (by decide) fun c hc => ?_
    obtain ⟨b, -, hb⟩ := List.mem_flatMap.mp hc
    have hbyte := shown_tagByte b.toNat b.toNat_lt
    rw [UInt8.ofNat_toNat] at hbyte
    exact hbyte c hb

/-- A text without line breaks stays on one line as a key. -/
lemma shown_write_key (ht : ∀ d ∈ t, isBreak d = false) :
    Shown (Quoting.write (Style.choose wished true t) n t) := by
  refine fun c hc => ⟨isPrintable_of_mem_write hc, ?_⟩
  cases hstyle : Style.choose wished true t with
  | plain =>
    rw [hstyle, Quoting.write] at hc
    exact ht c hc
  | single =>
    rw [hstyle, Quoting.write, Quoting.single_of_unbroken n ht] at hc
    simp only [List.cons_append, List.mem_cons, List.mem_append, List.not_mem_nil, or_false] at hc
    rcases hc with rfl | hc | rfl
    · decide
    · exact ht c (Quoting.mem_of_mem_doubled hc)
    · decide
  | double =>
    rw [hstyle, Quoting.write] at hc
    exact (shown_double t c hc).2
  | literal => exact absurd (Style.choose_eq_literal hstyle).1 (by simp)

variable {v : Value}

lemma shown_of_scalarKey {text : List Char} {length : Nat}
    {form : List Char × Style → List Char × Nat}
    (hform : ∀ s, (∀ d ∈ s.1, isBreak d = false) → Shown (form s).1)
    (h : (v.scalar?.bind fun s => if s.1.any isBreak then none else some (form s)) =
      some (text, length)) : Shown text := by
  obtain ⟨s, -, hs⟩ := Option.bind_eq_some_iff.mp h
  split at hs
  · cases hs
  · rename_i hbreak
    have hshown := hform s (by simpa using hbreak)
    rwa [Option.some.inj hs] at hshown

lemma shown_of_key? {text : List Char} {length : Nat} (h : v.key? = some (text, length)) :
    Shown text := by
  have hspace : Shown [' '] := by decide
  unfold Value.key? at h
  split at h
  · cases h
    decide
  · cases h
    decide
  · rename_i tag w
    have htag := shown_tagText tag
    split at h
    · cases h
    · cases h
      exact htag.append (by decide)
    · cases h
      exact htag.append (by decide)
    · exact shown_of_scalarKey (fun s hs => htag.append (hspace.append (shown_write_key hs))) h
  · exact shown_of_scalarKey (fun s hs => shown_write_key hs) h

/-- A short key stays on one line. -/
lemma shown_of_simpleKey? {text : List Char} (h : v.simpleKey? = some text) : Shown text := by
  obtain ⟨⟨text', length⟩, hkey, hlength⟩ := Option.bind_eq_some_iff.mp h
  simp only at hlength
  split at hlength
  · cases hlength
    exact shown_of_key? hkey
  · cases hlength

/-! ## Values -/

lemma sizeOf_members {e : Value × Value} {es : Entries} (he : e ∈ es) :
    sizeOf e.1 < sizeOf es ∧ sizeOf e.2 < sizeOf es := by
  have hlt := List.sizeOf_lt_of_mem he
  obtain ⟨k, v⟩ := e
  simp only [Prod.mk.sizeOf_spec] at hlt
  simp only
  omega

/-- Induction over a value: a scalar, or a collection or a tag around smaller values. -/
@[elab_as_elim]
theorem Value.induction {motive : Value → Prop}
    (scalar : ∀ v t wished, v.scalar? = some (t, wished) → motive v)
    (sequence : ∀ xs, (∀ x ∈ xs, motive x) → motive (.sequence xs))
    (mapping : ∀ es, (∀ e ∈ es, motive e.1) → (∀ e ∈ es, motive e.2) → motive (.mapping es))
    (tagged : ∀ tag v, motive v → motive (.tagged tag v)) (v : Value) : motive v :=
  match v with
  | .null => scalar _ _ _ rfl
  | .bool true => scalar _ _ _ rfl
  | .bool false => scalar _ _ _ rfl
  | .int _ => scalar _ _ _ rfl
  | .float _ => scalar _ _ _ rfl
  | .string _ => scalar _ _ _ rfl
  | .sequence xs => sequence xs fun x hx =>
    have := List.sizeOf_lt_of_mem hx
    Value.induction scalar sequence mapping tagged x
  | .mapping es =>
    mapping es
      (fun e he =>
        have := sizeOf_members he
        Value.induction scalar sequence mapping tagged e.1)
      (fun e he =>
        have := sizeOf_members he
        Value.induction scalar sequence mapping tagged e.2)
  | .tagged tag v => tagged tag v (Value.induction scalar sequence mapping tagged v)
termination_by sizeOf v
decreasing_by
  all_goals
    simp only [Value.sequence.sizeOf_spec, Value.mapping.sizeOf_spec, Value.tagged.sizeOf_spec]
    omega

lemma isPrintable_of_mem_lead {p : Place} (h : c ∈ p.lead n) : isPrintable c = true := by
  have hspace : isPrintable ' ' = true ∧ isPrintable '\n' = true := by decide
  unfold Place.lead at h
  split at h
  · rw [List.mem_singleton.mp h]
    exact hspace.1
  · rcases List.mem_cons.mp h with rfl | h
    · exact hspace.2
    · exact isPrintable_of_mem_spaces h

lemma isPrintable_of_mem_items {xs : List Value} {lead : List Char}
    (hlead : ∀ d ∈ lead, isPrintable d = true)
    (h : ∀ x ∈ xs, ∀ p : Place, ∀ d ∈ x.written p, isPrintable d = true)
    (hc : c ∈ writtenItems n lead xs) : isPrintable c = true := by
  have hhyphen : isPrintable '-' = true := by decide
  induction xs generalizing lead with
  | nil => simp [writtenItems] at hc
  | cons x xs ih =>
    simp only [writtenItems, List.mem_append, List.mem_cons] at hc
    rcases hc with (hc | rfl | hc) | hc
    · exact hlead c hc
    · exact hhyphen
    · exact h x (by simp) _ c hc
    · exact ih (fun d hd => isPrintable_of_mem_spaces hd) (fun y hy => h y (by simp [hy])) hc

lemma isPrintable_of_mem_entries {es : Entries} {lead : List Char}
    (hlead : ∀ d ∈ lead, isPrintable d = true)
    (hkeys : ∀ e ∈ es, ∀ p : Place, ∀ d ∈ e.1.written p, isPrintable d = true)
    (hvalues : ∀ e ∈ es, ∀ p : Place, ∀ d ∈ e.2.written p, isPrintable d = true)
    (hc : c ∈ writtenEntries n lead es) : isPrintable c = true := by
  have hindicators : isPrintable '?' = true ∧ isPrintable ':' = true := by decide
  induction es generalizing lead with
  | nil => simp [writtenEntries] at hc
  | cons e es ih =>
    obtain ⟨k, v⟩ := e
    have htail := @ih (spaces n) (fun d hd => isPrintable_of_mem_spaces hd)
      (fun e he => hkeys e (by simp [he])) fun e he => hvalues e (by simp [he])
    have hk : ∀ p : Place, ∀ d ∈ k.written p, isPrintable d = true := hkeys (k, v) (by simp)
    have hv : ∀ p : Place, ∀ d ∈ v.written p, isPrintable d = true := hvalues (k, v) (by simp)
    cases hsimple : k.simpleKey? with
    | some text =>
      simp only [writtenEntries, hsimple, List.mem_append, List.mem_cons] at hc
      rcases hc with ((hc | hc) | rfl | hc) | hc
      · exact hlead c hc
      · exact (shown_of_simpleKey? hsimple c hc).1
      · exact hindicators.2
      · exact hv _ c hc
      · exact htail hc
    | none =>
      simp only [writtenEntries, hsimple, List.mem_append, List.mem_cons] at hc
      rcases hc with (((hc | rfl | hc) | hc) | rfl | hc) | hc
      · exact hlead c hc
      · exact hindicators.1
      · exact hk _ c hc
      · exact isPrintable_of_mem_spaces hc
      · exact hindicators.2
      · exact hv _ c hc
      · exact htail hc

/-- A value is written with printable characters. -/
theorem Value.isPrintable_of_mem (v : Value) (p : Place) :
    ∀ c ∈ v.written p, isPrintable c = true := by
  induction v using Value.induction generalizing p with
  | scalar v t wished h =>
    intro c hc
    rw [written_of_scalar? h] at hc
    exact isPrintable_of_mem_scalarLine hc
  | sequence xs ih =>
    cases xs with
    | nil =>
      have hbrackets : Shown [' ', '[', ']'] := by decide
      intro c hc
      rw [Value.written] at hc
      exact isPrintable_of_mem_line hbrackets.printable hc
    | cons x xs =>
      intro c hc
      rw [Value.written] at hc
      exact isPrintable_of_mem_items (fun d hd => isPrintable_of_mem_lead hd) ih hc
  | mapping es ihkeys ihvalues =>
    cases es with
    | nil =>
      have hbraces : Shown [' ', '{', '}'] := by decide
      intro c hc
      rw [Value.written] at hc
      exact isPrintable_of_mem_line hbraces.printable hc
    | cons e es =>
      intro c hc
      rw [Value.written] at hc
      exact isPrintable_of_mem_entries (fun d hd => isPrintable_of_mem_lead hd) ihkeys ihvalues hc
  | tagged tag v ih =>
    intro c hc
    have hspace : isPrintable ' ' = true := by decide
    rw [Value.written] at hc
    rcases List.mem_append.mp hc with hc | hc
    · rcases List.mem_cons.mp hc with rfl | hc
      · exact hspace
      · exact (shown_tagText tag c hc).1
    · exact ih _ c hc

end Sidecars.Yaml
