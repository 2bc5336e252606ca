import Sidecars.Proofs.Yaml.Printable

/-!
# No line of a value starts at the margin

Whatever a value holds, every line of its text but the first is empty or starts with two spaces: a
line break is written only where the indentation of the next line follows.

* `Inset` says this of a text, and `Inset.append` puts such texts together;
* `inset_scalarLine` is a scalar in any style, and `inset_written` a value;
* `Inset.of_mem_lines` gets the lines of such a text.
-/

namespace Sidecars.Yaml

variable {s t : List Char} {c : Char} {n : Nat}

/-- What may stand behind a line break: nothing, another one, or two spaces. -/
inductive Continues : List Char → Prop
  | nil : Continues []
  | lineBreak {c : Char} {s : List Char} (h : isBreak c = true) : Continues (c :: s)
  | indent {s : List Char} : Continues (' ' :: ' ' :: s)

/-- All lines but the first are empty or start with two spaces. -/
def Inset : List Char → Prop
  | [] => True
  | c :: s => (isBreak c = true → Continues s) ∧ Inset s

/-- Whether the last character breaks a line. -/
def endsLine (s : List Char) : Bool := s.getLast?.any isBreak

/-! ## Texts put together -/

lemma Continues.append (h : Continues s) (hs : s ≠ []) (t : List Char) : Continues (s ++ t) := by
  cases h with
  | nil => exact absurd rfl hs
  | lineBreak h => exact .lineBreak h
  | indent => exact .indent

/-- Where one text ends in a line break, the next one has to go on in its place. -/
lemma Inset.append (hs : Inset s) (ht : Inset t) (h : endsLine s = true → Continues t) :
    Inset (s ++ t) := by
  induction s with
  | nil => exact ht
  | cons c s ih =>
    cases s with
    | nil => exact ⟨fun hc => h hc, ht⟩
    | cons d s =>
      have hends : endsLine (c :: d :: s) = endsLine (d :: s) := by simp [endsLine]
      exact ⟨fun hc => (hs.1 hc).append (by simp) t, ih hs.2 (hends ▸ h)⟩

lemma inset_of_unbroken (h : ∀ c ∈ s, isBreak c = false) : Inset s := by
  induction s with
  | nil => trivial
  | cons c s ih =>
    refine ⟨fun hc => ?_, ih fun d hd => h d (by simp [hd])⟩
    rw [h c (by simp)] at hc
    cases hc

lemma endsLine_of_unbroken (h : ∀ c ∈ s, isBreak c = false) : endsLine s = false := by
  rw [endsLine, Option.any_eq_false]
  exact fun c hc => by simp [h c (List.mem_of_getLast? hc)]

lemma Inset.append_unbroken (hs : ∀ c ∈ s, isBreak c = false) (ht : Inset t) : Inset (s ++ t) :=
  (inset_of_unbroken hs).append ht fun h => by simp [endsLine_of_unbroken hs] at h

lemma Inset.cons (hc : isBreak c = false) (h : Inset s) : Inset (c :: s) :=
  ⟨fun hbreak => by simp [hc] at hbreak, h⟩

lemma isBreak_of_mem_spaces (h : c ∈ spaces n) : isBreak c = false := by
  rw [List.eq_of_mem_replicate h]
  decide

lemma continues_spaces (hn : 2 ≤ n) (s : List Char) : Continues (spaces n ++ s) := by
  obtain ⟨n, rfl⟩ : ∃ m, n = m + 2 := ⟨n - 2, by omega⟩
  exact .indent

/-! ## Scalars -/

lemma continues_indented (hn : 2 ≤ n) (s : List Char) : Continues (Quoting.indented n true s) := by
  cases s with
  | nil => exact .nil
  | cons c s =>
    cases hc : isBreak c with
    | true =>
      rw [Quoting.indented_cons_break hc]
      exact .lineBreak hc
    | false =>
      rw [Quoting.indented_cons hc]
      exact continues_spaces hn _

/-- The lines of an indented text. -/
lemma inset_indented (hn : 2 ≤ n) (fresh : Bool) (s : List Char) :
    Inset (Quoting.indented n fresh s) := by
  induction s generalizing fresh with
  | nil => trivial
  | cons c s ih =>
    cases hc : isBreak c with
    | true =>
      rw [Quoting.indented_cons_break hc]
      exact ⟨fun _ => continues_indented hn s, ih true⟩
    | false =>
      have hmargin : ∀ d ∈ Quoting.margin n fresh, isBreak d = false := by
        intro d hd
        unfold Quoting.margin at hd
        split at hd
        · exact isBreak_of_mem_spaces hd
        · cases hd
      rw [Quoting.indented_cons hc]
      exact .append_unbroken hmargin (.cons hc (ih false))

lemma getLast?_doubled (s : List Char) : (Quoting.doubled s).getLast? = s.getLast? := by
  induction s with
  | nil => rfl
  | cons c s ih =>
    have hlast : (if c = '\'' then ['\'', '\''] else [c]).getLast? = some c := by
      split
      · rename_i hc
        simp [hc]
      · rfl
    rw [Quoting.doubled, List.flatMap_cons, ← Quoting.doubled, List.getLast?_append, ih, hlast,
      List.getLast?_cons]
    cases s.getLast? <;> rfl

/-- The closing quote is indented where it starts a line. -/
lemma inset_single (hn : 2 ≤ n) (s : List Char) : Inset (Quoting.single n s) := by
  have hquote : Shown ['\''] := by decide
  have hends :
      endsLine (Quoting.indented n false (Quoting.doubled s)) = s.getLast?.any isBreak := by
    rw [endsLine, Quoting.getLast?_indented, getLast?_doubled]
  have hbody : Inset (Quoting.indented n false (Quoting.doubled s)) := inset_indented hn false _
  rw [Quoting.single, List.cons_append, List.cons_append, List.append_assoc]
  refine .cons (hquote.unbroken _ (by simp)) (hbody.append ?_ ?_)
  · refine .append_unbroken (fun d hd => ?_) (inset_of_unbroken hquote.unbroken)
    split at hd
    · exact isBreak_of_mem_spaces hd
    · cases hd
  · intro hlast
    rw [if_pos (hends ▸ hlast)]
    exact continues_spaces hn _

/-- A block starts with a line break behind its hints. -/
lemma inset_literal (hn : 2 ≤ n) (s : List Char) : Inset (Quoting.literal n s) := by
  have hhints : ∀ d ∈ '|' :: Quoting.indentHint s ++ Quoting.chompHint s, isBreak d = false := by
    have hall : Shown ['|', '2', '-', '+'] := by decide
    intro d hd
    rw [List.cons_append] at hd
    rcases List.mem_cons.mp hd with rfl | hd
    · exact hall.unbroken _ (by simp)
    · exact hall.unbroken d (List.mem_cons_of_mem _ (mem_of_mem_hints hd))
  rw [Quoting.literal]
  exact .append_unbroken hhints ⟨fun _ => continues_indented hn s, inset_indented hn true s⟩

/-- A scalar in the style chosen for it. -/
lemma inset_write {wished : Style} {inKey : Bool} (hn : 2 ≤ n) (s : List Char) :
    Inset (Quoting.write (Style.choose wished inKey s) n s) := by
  cases hstyle : Style.choose wished inKey s with
  | plain =>
    refine inset_of_unbroken fun c hc => ?_
    exact (Style.plainText_of_choose (List.ne_nil_of_mem hc) hstyle).unbroken c hc
  | single => exact inset_single hn s
  | double => exact inset_of_unbroken (shown_double s).unbroken
  | literal => exact inset_literal hn s

lemma inset_endLine (h : Inset s) : Inset (Quoting.endLine s) := by
  unfold Quoting.endLine
  split
  · exact h
  · rename_i hends
    exact h.append ⟨fun _ => .nil, trivial⟩ fun hlast => absurd hlast hends

lemma inset_scalarLine (n : Nat) (s : List Char) (wished : Style) :
    Inset (scalarLine n s wished) := by
  have hspace : isBreak ' ' = false := by decide
  rw [scalarLine]
  exact .cons hspace (inset_endLine (inset_write (by omega) s))

/-! ## Values -/

/-- What stands before a member of a collection in a column `2` or more: an indented line has
begun. -/
structure Leading (lead : List Char) : Prop where
  inset : Inset lead
  unended : endsLine lead = false

lemma leading_spaces (n : Nat) : Leading (spaces n) :=
  ⟨inset_of_unbroken fun _ => isBreak_of_mem_spaces,
    endsLine_of_unbroken fun _ => isBreak_of_mem_spaces⟩

lemma leading_lead (hn : 2 ≤ n) (p : Place) : Leading (p.lead n) := by
  unfold Place.lead
  split
  · exact leading_spaces 1
  · obtain ⟨n, rfl⟩ : ∃ m, n = m + 2 := ⟨n - 2, by omega⟩
    have hline := leading_spaces (n + 2)
    refine ⟨⟨fun _ => .indent, hline.inset⟩, ?_⟩
    rw [← hline.unended]
    simp [endsLine, spaces, List.replicate_succ]

lemma Leading.append {lead : List Char} (hlead : Leading lead) (h : Inset s) : Inset (lead ++ s) :=
  hlead.inset.append h fun hends => by simp [hlead.unended] at hends

lemma continues_items (hn : 2 ≤ n) (xs : List Value) :
    Continues (writtenItems n (spaces n) xs) := by
  cases xs with
  | nil => exact .nil
  | cons x xs =>
    simp only [writtenItems, List.append_assoc]
    exact continues_spaces hn _

lemma inset_items {xs : List Value} {lead : List Char} (hn : 2 ≤ n) (hlead : Leading lead)
    (h : ∀ x ∈ xs, ∀ p : Place, 2 ≤ p.indent → Inset (x.written p)) :
    Inset (writtenItems n lead xs) := by
  have hhyphen : isBreak '-' = false := by decide
  induction xs generalizing lead with
  | nil => trivial
  | cons x xs ih =>
    have hx : Inset (x.written ⟨n, false, true⟩) := h x (by simp) _ hn
    have hxs := ih (leading_spaces n) fun y hy => h y (by simp [hy])
    rw [writtenItems]
    exact (hlead.append (.cons hhyphen hx)).append hxs fun _ => continues_items hn xs

lemma continues_entries (hn : 2 ≤ n) (es : Entries) :
    Continues (writtenEntries n (spaces n) es) := by
  cases es with
  | nil => exact .nil
  | cons e es =>
    obtain ⟨k, v⟩ := e
    rw [writtenEntries]
    split
    · simp only [List.append_assoc]
      exact continues_spaces hn _
    · simp only [List.append_assoc]
      exact continues_spaces hn _

lemma inset_entries {es : Entries} {lead : List Char} (hn : 2 ≤ n) (hlead : Leading lead)
    (hkeys : ∀ e ∈ es, ∀ p : Place, 2 ≤ p.indent → Inset (e.1.written p))
    (hvalues : ∀ e ∈ es, ∀ p : Place, 2 ≤ p.indent → Inset (e.2.written p)) :
    Inset (writtenEntries n lead es) := by
  have hindicators : isBreak '?' = false ∧ isBreak ':' = false := by decide
  induction es generalizing lead with
  | nil => trivial
  | cons e es ih =>
    obtain ⟨k, v⟩ := e
    have hk : ∀ p : Place, 2 ≤ p.indent → Inset (k.written p) := hkeys (k, v) (by simp)
    have hv : ∀ p : Place, 2 ≤ p.indent → Inset (v.written p) := hvalues (k, v) (by simp)
    have hes := ih (leading_spaces n) (fun e he => hkeys e (by simp [he]))
      fun e he => hvalues e (by simp [he])
    rw [writtenEntries]
    refine Inset.append ?_ hes fun _ => continues_entries hn es
    split
    · -- the key stands on the line of its value
      rename_i text htext
      rw [List.append_assoc]
      refine hlead.append (.append_unbroken (shown_of_simpleKey? htext).unbroken ?_)
      exact .cons hindicators.2 (hv _ hn)
    · -- the value has a line of its own behind the key
      rw [List.append_assoc]
      refine Inset.append (hlead.append (.cons hindicators.1 (hk _ hn))) ?_ fun _ =>
        continues_spaces hn _
      exact (leading_spaces n).append (.cons hindicators.2 (hv _ hn))

lemma inset_line (h : ∀ c ∈ s, isBreak c = false) : Inset (s ++ ['\n']) :=
  .append_unbroken h ⟨fun _ => .nil, trivial⟩

/-- A mapping is indented wherever it stands. -/
lemma inset_mapping {es : Entries} (p : Place)
    (hkeys : ∀ e ∈ es, ∀ p : Place, 2 ≤ p.indent → Inset (e.1.written p))
    (hvalues : ∀ e ∈ es, ∀ p : Place, 2 ≤ p.indent → Inset (e.2.written p)) :
    Inset ((Value.mapping es).written p) := by
  cases es with
  | nil =>
    rw [Value.written]
    exact @inset_line [' ', '{', '}'] (Shown.unbroken (by decide))
  | cons e es =>
    have hcolumn : 2 ≤ p.mappingIndent := Nat.le_add_left 2 p.indent
    rw [Value.written]
    exact inset_entries hcolumn (leading_lead hcolumn p) hkeys hvalues

/-- The lines of a value stand further right than the margin. -/
theorem inset_written (v : Value) (p : Place) (hp : 2 ≤ p.indent) : Inset (v.written p) := by
  induction v using Value.induction generalizing p with
  | scalar v t wished h =>
    rw [written_of_scalar? h]
    exact inset_scalarLine _ _ _
  | sequence xs ih =>
    cases xs with
    | nil =>
      rw [Value.written]
      exact @inset_line [' ', '[', ']'] (Shown.unbroken (by decide))
    | cons x xs =>
      have hcolumn : 2 ≤ p.sequenceIndent := by
        unfold Place.sequenceIndent
        split <;> omega
      rw [Value.written]
      exact inset_items hcolumn (leading_lead hcolumn p) ih
  | mapping es ihkeys ihvalues => exact inset_mapping p ihkeys ihvalues
  | tagged tag v ih =>
    have htag : ∀ c ∈ ' ' :: tagText tag, isBreak c = false := fun c hc => by
      rcases List.mem_cons.mp hc with rfl | hc
      · decide
      · exact (shown_tagText tag).unbroken c hc
    rw [Value.written]
    exact .append_unbroken htag (ih _ hp)

/-! ## Lines -/

/-- A line that is empty or starts with two spaces. -/
def Indented (line : List Char) : Prop := line = [] ∨ [' ', ' '] <+: line

variable {ends skips : Char → Bool}

/-- The first line of what stands behind a line break: with the line breaks taken off its start that
do not end it, it is empty or starts with two spaces. -/
lemma Inset.head_lines (hs : Inset s) (hcontinues : Continues s)
    (hbreak : ∀ c ∈ s, isBreak c = (ends c || skips c)) :
    ∃ line rest, s.splitOnP ends = line :: rest ∧ Indented (line.dropWhile skips) := by
  induction s with
  | nil => exact ⟨[], [], by simp, .inl rfl⟩
  | cons c s ih =>
    have hc := hbreak c (by simp)
    rw [List.splitOnP_cons_eq_if_modifyHead]
    split
    · exact ⟨[], _, rfl, .inl rfl⟩
    · rename_i hends
      cases hcontinues with
      | lineBreak h =>
        -- a line break that does not end the line
        have hskips : skips c = true := by simpa [h, hends] using hc.symm
        obtain ⟨line, rest, hlines, hindented⟩ :=
          ih hs.2 (hs.1 h) fun d hd => hbreak d (by simp [hd])
        refine ⟨c :: line, rest, by rw [hlines]; rfl, ?_⟩
        rwa [List.dropWhile_cons_of_pos hskips]
      | @indent s =>
        have hspace : isBreak ' ' = false := by decide
        have hskips : skips ' ' = false := by simpa [hspace, hends] using hc.symm
        obtain ⟨line, rest, hlines⟩ := List.exists_cons_of_ne_nil (List.splitOnP_ne_nil ends s)
        rw [List.splitOnP_cons_eq_if_modifyHead, if_neg hends, hlines]
        refine ⟨' ' :: ' ' :: line, rest, rfl, .inr ⟨line, ?_⟩⟩
        rw [List.dropWhile_cons_of_neg (by simp [hskips])]
        rfl

/-- Every line but the first, whichever of the line breaks end it. -/
theorem Inset.indented_of_mem_tail (hs : Inset s)
    (hbreak : ∀ c ∈ s, isBreak c = (ends c || skips c)) :
    ∀ line ∈ (s.splitOnP ends).tail, Indented (line.dropWhile skips) := by
  induction s with
  | nil => simp
  | cons c s ih =>
    have hc := hbreak c (by simp)
    have hrest : ∀ d ∈ s, isBreak d = (ends d || skips d) := fun d hd => hbreak d (by simp [hd])
    rw [List.splitOnP_cons_eq_if_modifyHead]
    split
    · rename_i hends
      obtain ⟨line, rest, hlines, hindented⟩ :=
        hs.2.head_lines (hs.1 (by simp [hc, hends])) hrest
      have htail := ih hs.2 hrest
      rw [hlines] at htail ⊢
      exact List.forall_mem_cons.mpr ⟨hindented, htail⟩
    · rw [List.tail_modifyHead]
      exact ih hs.2 hrest

end Sidecars.Yaml
