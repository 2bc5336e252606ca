import Sidecars.Proofs.Sidecar.Confined
import Sidecars.Proofs.Text.Lines

/-!
# The delimiter at the end

The delimiter at the end of a sidecar follows the document without a line feed of its own, so it
stands on a line of its own exactly if the document ends in a line feed.  A value always ends in a
line break.  It is a line feed unless the last thing in the value is a text of several lines that is
written as a block and has a separator at its end, which the block keeps.

* `Value.lastText?` is the last thing in a value, and `ends_written` the end of what is written;
* `render_closed_iff` says when the delimiter is a line.
-/

namespace Sidecars.Yaml

open Frontmatter (isSeparator isBreak_of_isPrintable)

variable {s t : List Char} {o : Option String} {n : Nat} {wished : Style} {inKey : Bool}

/-! ## The last thing in a value -/

mutual

/-- The text that stands last in a value, if a text does. -/
def Value.lastText? : Value → Option String
  | .string s => some s
  | .sequence xs => lastItemText? xs
  | .mapping es => lastEntryText? es
  | .tagged _ v => v.lastText?
  | _ => none

/-- The text that stands last in the items of a sequence. -/
def lastItemText? : List Value → Option String
  | [] => none
  | [x] => x.lastText?
  | _ :: x :: xs => lastItemText? (x :: xs)

/-- The text that stands last in the pairs of a mapping. -/
def lastEntryText? : List (Value × Value) → Option String
  | [] => none
  | [(_, v)] => v.lastText?
  | _ :: e :: es => lastEntryText? (e :: es)

end

/-- A text of several lines that can be written as a block, with a separator at its end. -/
structure LeavesOpen (s : String) : Prop where
  /-- There are several lines. -/
  lines : '\n' ∈ s.toList
  /-- Nothing has to be escaped. -/
  printable : ∀ c ∈ s.toList, isPrintable c = true
  /-- No space stands in front of a line break. -/
  spaceBreak : Traits.adjacent Traits.isSpace isBreak s.toList = false
  /-- The last character is a separator. -/
  last : ∃ c, s.toList.getLast? = some c ∧ isSeparator c = true

/-! ## The end of a scalar -/

lemma isBreak_of_isSeparator {c : Char} (h : isSeparator c = true) : isBreak c = true := by
  simp only [isSeparator, isBreak, Bool.or_eq_true] at h ⊢
  tauto

/-- Only a block can end in a line break of its own. -/
lemma endsLine_write (h : Style.choose wished inKey s ≠ .literal) :
    endsLine (Quoting.write (Style.choose wished inKey s) n s) = false := by
  cases hstyle : Style.choose wished inKey s with
  | plain =>
    refine endsLine_of_unbroken fun c hc => ?_
    exact (Style.plainText_of_choose (List.ne_nil_of_mem hc) hstyle).unbroken c hc
  | single =>
    have hquote : isBreak '\'' = false := by decide
    simp [Quoting.write, Quoting.single, endsLine, hquote, List.getLast?_cons]
  | double =>
    have hquote : isBreak '"' = false := by decide
    simp [Quoting.write, Quoting.double, endsLine, hquote, List.getLast?_cons]
  | literal => exact absurd hstyle h

/-- A text leaves its place open exactly if it is written as a block and has a separator at its
end. -/
lemma leavesOpen_iff (s : String) :
    LeavesOpen s ↔ Style.choose (Style.wish s) false s.toList = .literal ∧
      ∃ c, s.toList.getLast? = some c ∧ isSeparator c = true := by
  constructor
  · rintro ⟨hlines, hprintable, hspaceBreak, c, hc, hseparator⟩
    have hspace : c ≠ ' ' := by
      rintro rfl
      exact absurd hseparator (by decide)
    refine ⟨Style.choose_eq_literal_iff.2 ⟨(Style.wish_eq_literal_iff s).2 hlines, rfl, ?_⟩,
      c, hc, hseparator⟩
    have htraits : (Traits.of s.toList).trailingSpace = false ∧
        (Traits.of s.toList).spaceBreak = false ∧ (Traits.of s.toList).special = false := by
      refine ⟨?_, hspaceBreak, by simpa [Traits.of] using hprintable⟩
      simp [Traits.of, Traits.isSpace, hc, hspace]
    simp [Traits.allowsBlock, List.ne_nil_of_mem hlines, htraits]
  · rintro ⟨hstyle, hlast⟩
    have htext := Style.literalText_of_choose hstyle
    have hlines := (Style.wish_eq_literal_iff s).1 (Style.choose_eq_literal_iff.1 hstyle).1
    exact ⟨hlines, htext.printable, htext.spaceBreak, hlast⟩

/-! ## The end of what is written -/

/-- A text ends in a line break: in a line feed unless what stands last leaves it open. -/
structure EndsAs (last : Option String) (t : List Char) : Prop where
  ended : endsLine t = true
  closed : t.getLast? = some '\n' ↔ ∀ s, last = some s → ¬ LeavesOpen s

lemma EndsAs.append (h : EndsAs o t) (s : List Char) : EndsAs o (s ++ t) := by
  have hlast : (s ++ t).getLast? = t.getLast? := by
    have hne : t ≠ [] := by
      rintro rfl
      exact absurd h.ended (by decide)
    exact List.getLast?_append_of_ne_nil s hne
  refine ⟨?_, ?_⟩
  · rw [endsLine, hlast]
    exact h.ended
  · rw [hlast]
    exact h.closed

lemma EndsAs.cons (h : EndsAs o t) (c : Char) : EndsAs o (c :: t) := h.append [c]

/-- A line that a line feed ends. -/
lemma endsAs_line (s : List Char) (h : ∀ s, o = some s → ¬ LeavesOpen s) :
    EndsAs o (s ++ ['\n']) := by
  have hfeed : isBreak '\n' = true := by decide
  refine ⟨by simp [endsLine, hfeed], ?_⟩
  rw [List.getLast?_append, List.getLast?_singleton]
  exact ⟨fun _ => h, fun _ => rfl⟩

lemma endsAs_scalarLine (hstyle : Style.choose wished false s ≠ .literal)
    (h : ∀ s, o = some s → ¬ LeavesOpen s) : EndsAs o (scalarLine n s wished) := by
  have hends := endsLine_write (n := n + 2) hstyle
  rw [endsLine] at hends
  rw [scalarLine, Quoting.endLine, if_neg (by simp [hends])]
  exact (endsAs_line _ h).cons ' '

/-- A block keeps the line break at the end of its text. -/
lemma endsAs_block (s : String)
    (hstyle : Style.choose (Style.wish s) false s.toList = .literal) :
    EndsAs (some s) (scalarLine n s.toList (Style.wish s)) := by
  have htext := Style.literalText_of_choose hstyle
  have hlast : (Quoting.literal (n + 2) s.toList).getLast? = s.toList.getLast? :=
    Quoting.getLast?_literal (n + 2) htext.ne_nil
  rw [scalarLine, hstyle, Quoting.write]
  refine EndsAs.cons ?_ ' '
  obtain ⟨c, hc⟩ : ∃ c, s.toList.getLast? = some c :=
    ⟨_, List.getLast?_eq_some_getLast htext.ne_nil⟩
  have hcases := isBreak_of_isPrintable (htext.printable c (List.mem_of_getLast? hc))
  have hopen : LeavesOpen s ↔ isSeparator c = true := by
    rw [leavesOpen_iff, hc]
    simp [hstyle]
  rw [hc] at hlast
  rw [Quoting.endLine, hlast, Option.any_some]
  cases hbreak : isBreak c with
  | true =>
    -- no line feed follows, so the break is a line feed exactly if it is no separator
    refine ⟨by simp [endsLine, hlast, hbreak], ?_⟩
    simp only [if_true, hlast, Option.some.injEq, forall_eq', hopen]
    constructor
    · rintro rfl
      decide
    · intro hseparator
      simpa [hbreak, hseparator] using hcases
  | false =>
    -- a line feed follows, and the text does not end in a separator
    refine endsAs_line _ fun s' hs' => ?_
    obtain rfl := Option.some.inj hs'
    rw [hopen]
    intro hseparator
    simp [isBreak_of_isSeparator hseparator] at hbreak

/-- A scalar. -/
lemma endsAs_of_scalar? {v : Value} (h : v.scalar? = some (s, wished)) :
    EndsAs v.lastText? (scalarLine n s wished) := by
  -- only a text can be written as a block
  have hplain (hlast : v.lastText? = none) (hwished : wished = .plain) :
      EndsAs v.lastText? (scalarLine n s wished) := by
    subst hwished
    refine endsAs_scalarLine (fun hstyle => ?_) fun s hs => ?_
    · exact absurd (Style.choose_eq_literal_iff.1 hstyle).1 (by decide)
    · rw [hlast] at hs
      cases hs
  cases v with
  | string s =>
    obtain ⟨rfl, rfl⟩ := Prod.mk.inj (Option.some.inj h)
    by_cases hstyle : Style.choose (Style.wish s) false s.toList = .literal
    · exact endsAs_block s hstyle
    · refine endsAs_scalarLine hstyle fun s' hs' hopen => hstyle ?_
      obtain rfl := Option.some.inj hs'
      exact ((leavesOpen_iff s).1 hopen).1
  | bool b =>
    cases b <;> obtain ⟨-, rfl⟩ := Prod.mk.inj (Option.some.inj h) <;> exact hplain rfl rfl
  | null | int | float =>
    obtain ⟨-, rfl⟩ := Prod.mk.inj (Option.some.inj h)
    exact hplain rfl rfl
  | sequence | mapping | tagged => simp [Value.scalar?] at h

/-- The items of a sequence end as the last of them does. -/
lemma endsAs_items {xs : List Value} {lead : List Char} (hne : xs ≠ [])
    (h : ∀ x ∈ xs, ∀ p : Place, EndsAs x.lastText? (x.written p)) :
    EndsAs (lastItemText? xs) (writtenItems n lead xs) := by
  induction xs generalizing lead with
  | nil => exact absurd rfl hne
  | cons x xs ih =>
    cases xs with
    | nil =>
      -- the last item, behind its hyphen
      rw [writtenItems, writtenItems, List.append_nil, lastItemText?]
      exact ((h x (by simp) _).cons '-').append lead
    | cons y ys =>
      rw [writtenItems, lastItemText?]
      exact (ih (by simp) fun z hz => h z (List.mem_cons_of_mem x hz)).append _

/-- The pairs of a mapping end as the value of the last of them does. -/
lemma endsAs_entries {es : Entries} {lead : List Char} (hne : es ≠ [])
    (h : ∀ e ∈ es, ∀ p : Place, EndsAs e.2.lastText? (e.2.written p)) :
    EndsAs (lastEntryText? es) (writtenEntries n lead es) := by
  induction es generalizing lead with
  | nil => exact absurd rfl hne
  | cons e es ih =>
    obtain ⟨k, v⟩ := e
    cases es with
    | nil =>
      have hv (p : Place) : EndsAs v.lastText? (v.written p) := h (k, v) (by simp) p
      -- the last value stands behind a colon, whether its key is on the same line or not
      rw [writtenEntries, writtenEntries, List.append_nil, lastEntryText?]
      split
      · exact ((hv _).cons ':').append _
      · exact ((hv _).cons ':').append _
    | cons e es =>
      rw [writtenEntries, lastEntryText?]
      exact (ih (by simp) fun e' he' => h e' (List.mem_cons_of_mem _ he')).append _

/-- A value ends in a line break, and in a line feed unless a text that leaves it open stands
last. -/
theorem endsAs_written (v : Value) (p : Place) : EndsAs v.lastText? (v.written p) := by
  induction v using Value.induction generalizing p with
  | scalar v t wished h =>
    rw [written_of_scalar? h]
    exact endsAs_of_scalar? h
  | sequence xs ih =>
    cases xs with
    | nil =>
      rw [Value.written]
      exact endsAs_line [' ', '[', ']'] (by simp [Value.lastText?, lastItemText?])
    | cons x xs =>
      rw [Value.written, Value.lastText?]
      exact endsAs_items (by simp) ih
  | mapping es _ ih =>
    cases es with
    | nil =>
      rw [Value.written]
      exact endsAs_line [' ', '{', '}'] (by simp [Value.lastText?, lastEntryText?])
    | cons e es =>
      rw [Value.written, Value.lastText?]
      exact endsAs_entries (by simp) ih
  | tagged tag v ih =>
    rw [Value.written, Value.lastText?]
    exact (ih _).append _

end Sidecars.Yaml

namespace Sidecars.Frontmatter

open Yaml

variable {metadata : Metadata} {body : List Char}

/-! ## The delimiter -/

lemma toList_of_render {text : String} (h : render metadata = .ok text) :
    text.toList = delimiter ++ '\n' :: bodyOf metadata ++ delimiter ++ ['\n'] := by
  unfold render at h
  cases hchars : renderChars metadata with
  | error e => simp [hchars, Except.map] at h
  | ok chars =>
    obtain rfl : String.ofList chars = text := by simpa [hchars, Except.map] using h
    rw [String.toList_ofList, eq_of_renderChars hchars]

/-- The document ends as its metadata does. -/
lemma endsAs_bodyOf (metadata : Metadata) :
    EndsAs (Value.mapping metadata).lastText? (bodyOf metadata) := by
  rw [bodyOf_eq]
  exact (endsAs_written _ _).append opening

/-- The delimiter is the last line exactly if the document in front of it ends in a line feed. -/
lemma splitOn_delimiter_iff (hends : endsLine body = true) :
    (∃ lines, (delimiter ++ '\n' :: body ++ delimiter ++ ['\n']).splitOn '\n' =
        lines ++ [delimiter, []]) ↔ body.getLast? = some '\n' := by
  have hne : body ≠ [] := by
    rintro rfl
    exact absurd hends (by decide)
  have hlast : (delimiter ++ '\n' :: body).getLast? = body.getLast? := by
    rw [List.append_cons, List.getLast?_append_of_ne_nil _ hne]
  have hdelimiter : '\n' ∉ delimiter := by decide
  rw [← hlast]
  constructor
  · rintro ⟨lines, hlines⟩
    have hconcat : lines ++ [delimiter, []] = lines ++ [delimiter] ++ [[]] := by simp
    rw [hconcat, Text.splitOn_eq_concat_iff] at hlines
    obtain ⟨htext, hfree⟩ := hlines
    have hsame : (delimiter ++ '\n' :: body) ++ (delimiter ++ ['\n']) =
        Text.ended lines ++ (delimiter ++ ['\n']) := by simpa using htext
    have hbefore := List.append_cancel_right hsame
    rcases Text.exists_ended_iff.1 ⟨lines, hbefore, fun l hl => hfree l (by simp [hl])⟩ with h | h
    · simp at h
    · exact h
  · intro h
    obtain ⟨lines, hbefore, hfree⟩ := Text.exists_ended_iff.2 (.inr h)
    have hconcat : lines ++ [delimiter, []] = lines ++ [delimiter] ++ [[]] := by simp
    refine ⟨lines, ?_⟩
    rw [hconcat, Text.splitOn_eq_concat_iff, hbefore]
    refine ⟨by simp, ?_⟩
    simpa [or_imp, forall_and, hdelimiter] using hfree

/-- The document between the delimiters ends in a line break.  The last line of the text, as line
feeds end lines, is the delimiter and nothing else, unless the last thing in the metadata is a text
of several lines that is written as a block and has a separator at its end. -/
theorem render_closed_iff {text : String} (h : render metadata = .ok text) :
    ∃ body, text.toList = delimiter ++ '\n' :: body ++ delimiter ++ ['\n'] ∧
      endsLine body = true ∧
      ((∃ lines, text.toList.splitOn '\n' = lines ++ [delimiter, []]) ↔
        ∀ s, (Value.mapping metadata).lastText? = some s → ¬ LeavesOpen s) := by
  have htext := toList_of_render h
  have hends := endsAs_bodyOf metadata
  refine ⟨bodyOf metadata, htext, hends.ended, ?_⟩
  rw [htext, splitOn_delimiter_iff hends.ended]
  exact hends.closed

/-- A text of two lines with a separator behind the second one. -/
def openEnded : Metadata := [(.string "k", .string "a\nb\u2028")]

lemma render_openEnded :
    render openEnded = .ok (String.ofList
      (delimiter ++ '\n' :: bodyOf openEnded ++ delimiter ++ ['\n'])) := by
  have hportable : Portable 127 (.mapping openEnded) :=
    .mapping (by simp [openEnded]) (by simp [openEnded]) (by simp [openEnded, Portable.string])
  rw [render, renderChars_eq hportable]
  rfl

/-- The text leaves the end of its document open. -/
theorem render_closed_iff_openEnded :
    ∃ text, render openEnded = .ok text ∧
      ((∃ lines, text.toList.splitOn '\n' = lines ++ [delimiter, []]) ↔
        ¬ LeavesOpen "a\nb\u2028") := by
  obtain ⟨-, -, -, hclosed⟩ := render_closed_iff render_openEnded
  refine ⟨_, render_openEnded, hclosed.trans ?_⟩
  have hlast : (Value.mapping openEnded).lastText? = some "a\nb\u2028" := rfl
  simp [hlast]

/-- The delimiter stands behind the separator, on the line that the text leaves open. -/
theorem render_unclosed :
    ∃ text, render openEnded = .ok text ∧
      ¬ ∃ lines, text.toList.splitOn '\n' = lines ++ [delimiter, []] := by
  refine ⟨_, render_openEnded, ?_⟩
  rw [String.toList_ofList, splitOn_delimiter_iff (endsAs_bodyOf openEnded).ended]
  decide +kernel

end Sidecars.Frontmatter
