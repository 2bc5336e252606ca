import Sidecars.Yaml.Value
import Sidecars.Proofs.Yaml.Cursor

/-!
# What a style promises

The style in which a text is written is chosen by its traits.  Here the choice is read backwards:
from the style that was chosen to the facts about the characters on which reading the text back
depends.

* `PlainText`, `SingleText` and `LiteralText` collect what holds of a text that is written plain,
  between single quotes or as a literal block;
* `Quoting.indented_cons` and `Quoting.endsFresh` follow the lines of an indented text;
* `Style.plainText_of_choose`, `Style.singleText_of_choose` and `Style.literalText_of_choose` get
  them from the choice.
-/

namespace Sidecars.Yaml

/-! ## Printable characters -/

lemma ne_tab_of_isPrintable {c : Char} (h : isPrintable c = true) : c ≠ '\t' := by
  rintro rfl
  exact absurd h (by decide)

lemma ne_return_of_isPrintable {c : Char} (h : isPrintable c = true) : c ≠ '\r' := by
  rintro rfl
  exact absurd h (by decide)

lemma ne_nextLine_of_isPrintable {c : Char} (h : isPrintable c = true) : c ≠ '\u0085' := by
  rintro rfl
  exact absurd h (by decide)

lemma ne_byteOrderMark_of_isPrintable {c : Char} (h : isPrintable c = true) :
    c ≠ byteOrderMark := by
  rintro rfl
  exact absurd h (by decide)

/-- The space is the only printable blank. -/
lemma isBlank_iff_of_isPrintable {c : Char} (h : isPrintable c = true) :
    isBlank c = true ↔ c = ' ' := by
  simp [isBlank, ne_tab_of_isPrintable h]

/-- The printable line breaks other than the line feed are kept when lines are folded. -/
lemma foldedBreak_eq_self {c : Char} (h : isPrintable c = true) (hbreak : isBreak c = true) :
    Lexeme.foldedBreak c = c := by
  have hreturn := ne_return_of_isPrintable h
  have hnext := ne_nextLine_of_isPrintable h
  have hcases : c = '\n' ∨ c = '\u2028' ∨ c = '\u2029' := by
    simpa [isBreak, hreturn, hnext, or_assoc] using hbreak
  rcases hcases with rfl | rfl | rfl <;> decide

/-- What may be written may be read. -/
lemma isReadable_of_isPrintable {c : Char} (h : isPrintable c = true) : isReadable c = true := by
  simp only [isPrintable, isReadable, Bool.or_eq_true, Bool.and_eq_true, decide_eq_true_eq] at h ⊢
  rcases h with (((rfl | h) | h) | h) | h
  · decide
  · simp [h]
  · simp [h]
  · simp [h.1]
  · simp [h]

/-! ## Plain texts -/

/-- What holds of a text that is written plain. -/
structure PlainText (s : List Char) : Prop where
  ne_nil : s ≠ []
  printable : ∀ c ∈ s, isPrintable c = true
  unbroken : ∀ c ∈ s, isBreak c = false
  /-- Neither an indicator at the start nor one after white space. -/
  uninterrupted : Traits.interrupts ' ' s = false
  first : s.head? ≠ some ' '
  last : s.getLast? ≠ some ' '
  opens : Traits.opens s = false
  undivided : s.take 3 ≠ ['-', '-', '-'] ∧ s.take 3 ≠ ['.', '.', '.']

/-- What holds of a text that is written between single quotes. -/
structure SingleText (s : List Char) : Prop where
  printable : ∀ c ∈ s, isPrintable c = true
  unfed : '\n' ∉ s
  /-- No space stands beside a line break. -/
  breakSpace : Traits.adjacent isBreak Traits.isSpace s = false
  spaceBreak : Traits.adjacent Traits.isSpace isBreak s = false

/-- What holds of a text that is written as a literal block. -/
structure LiteralText (s : List Char) : Prop where
  ne_nil : s ≠ []
  printable : ∀ c ∈ s, isPrintable c = true
  last : s.getLast? ≠ some ' '
  /-- No space stands in front of a line break. -/
  spaceBreak : Traits.adjacent Traits.isSpace isBreak s = false

namespace Traits

variable {s : List Char}

lemma printable_of_special (h : (of s).special = false) : ∀ c ∈ s, isPrintable c = true := by
  simpa [of] using h

lemma adjacent_cons (p q : Char → Bool) (c : Char) (s : List Char) :
    adjacent p q (c :: s) = (p c && s.head?.any q || adjacent p q s) := by
  cases s <;> simp [adjacent]

lemma adjacent_of_cons {p q : Char → Bool} {c : Char} (h : adjacent p q (c :: s) = false) :
    adjacent p q s = false := by
  rw [adjacent_cons, Bool.or_eq_false_iff] at h
  exact h.2

lemma adjacent_of_forall {p : Char → Bool} (q : Char → Bool) (h : ∀ c ∈ s, p c = false) :
    adjacent p q s = false := by
  induction s with
  | nil => rfl
  | cons c s ih =>
    rw [adjacent_cons, h c (by simp), ih fun d hd => h d (by simp [hd])]
    rfl

lemma interrupts_of_forall (before : Char) (h : ∀ c ∈ s, c ≠ ':' ∧ c ≠ '#') :
    interrupts before s = false := by
  induction s generalizing before with
  | nil => rfl
  | cons c s ih =>
    obtain ⟨hcolon, hhash⟩ := h c (by simp)
    simp [interrupts, hcolon, hhash, ih c fun d hd => h d (by simp [hd])]

lemma interrupts_space_cons {c : Char} {rest : List Char} (hopens : opens (c :: rest) = false)
    (h : interrupts c rest = false) : interrupts ' ' (c :: rest) = false := by
  simp only [opens, isOpeningIndicator, Bool.or_eq_false_iff, Bool.and_eq_false_iff,
    decide_eq_false_iff_not] at hopens
  have hhash : c ≠ '#' := by tauto
  rw [interrupts, h, Bool.or_false, Bool.or_eq_false_iff]
  refine ⟨?_, by simp [hhash]⟩
  rcases hopens.2 with hcolon | hwhite
  · simp [hcolon.1.2]
  · simp [hwhite]

lemma plainText_of_allowsPlain (hs : s ≠ []) (h : (of s).allowsPlain = true) : PlainText s := by
  simp only [allowsPlain, Bool.not_eq_true', Bool.or_eq_false_iff] at h
  obtain ⟨⟨⟨⟨⟨⟨⟨⟨hfirst, -⟩, hlast⟩, -⟩, -⟩, -⟩, hspecial⟩, hbreaks⟩, hindicator⟩ := h
  obtain ⟨c, rest, rfl⟩ := List.exists_cons_of_ne_nil hs
  simp only [of, Bool.or_eq_false_iff, decide_eq_false_iff_not] at hindicator
  obtain ⟨⟨⟨hdashes, hdots⟩, hopens⟩, hinterrupts⟩ := hindicator
  refine ⟨hs, printable_of_special hspecial, by simpa [of] using hbreaks,
    interrupts_space_cons hopens hinterrupts, ?_, ?_, hopens, hdashes, hdots⟩
  · simpa [of, isSpace] using hfirst
  · intro hc
    simp [of, hc, isSpace] at hlast

lemma literalText_of_allowsBlock (h : (of s).allowsBlock s = true) : LiteralText s := by
  simp only [allowsBlock, Bool.and_eq_true, decide_eq_true_eq, Bool.not_eq_true',
    Bool.or_eq_false_iff] at h
  obtain ⟨hs, ⟨hlast, hspace⟩, hspecial⟩ := h
  refine ⟨hs, printable_of_special hspecial, fun hc => ?_, by simpa [of] using hspace⟩
  simp [of, hc, isSpace] at hlast

lemma singleText_of_allowsSingle (hfeed : '\n' ∉ s) (h : (of s).allowsSingle = true) :
    SingleText s := by
  simp only [allowsSingle, Bool.not_eq_true', Bool.or_eq_false_iff] at h
  obtain ⟨⟨hbefore, hafter⟩, hspecial⟩ := h
  exact ⟨printable_of_special hspecial, hfeed, by simpa [of] using hbefore,
    by simpa [of] using hafter⟩

end Traits

lemma SingleText.tail {c : Char} {s : List Char} (h : SingleText (c :: s)) : SingleText s where
  printable d hd := h.printable d (List.mem_cons_of_mem c hd)
  unfed hfeed := h.unfed (List.mem_cons_of_mem c hfeed)
  breakSpace := Traits.adjacent_of_cons h.breakSpace
  spaceBreak := Traits.adjacent_of_cons h.spaceBreak

/-! ## Indented lines -/

namespace Quoting

variable {c : Char}

/-- What stands in front of a character that is no line break. -/
def margin (indent : Nat) (fresh : Bool) : List Char := if fresh then spaces indent else []

lemma indented_cons_break (hc : isBreak c = true) (n : Nat) (fresh : Bool) (s : List Char) :
    indented n fresh (c :: s) = c :: indented n true s := by
  rw [indented, if_pos hc]

lemma indented_cons (hc : isBreak c = false) (n : Nat) (fresh : Bool) (s : List Char) :
    indented n fresh (c :: s) = margin n fresh ++ c :: indented n false s := by
  rw [indented, if_neg (by simp [hc]), margin]

/-- A text without line breaks is not indented. -/
lemma indented_of_unbroken (n : Nat) {s : List Char} (h : ∀ c ∈ s, isBreak c = false) :
    indented n false s = s := by
  induction s with
  | nil => rfl
  | cons c s ih =>
    rw [indented_cons (h c (by simp)), ih fun d hd => h d (by simp [hd])]
    rfl

lemma mem_of_mem_doubled {s : List Char} (h : c ∈ doubled s) : c ∈ s := by
  obtain ⟨d, hd, hcd⟩ := List.mem_flatMap.mp h
  split at hcd
  · rename_i hquote
    obtain rfl : c = d := by simpa [hquote] using hcd
    exact hd
  · obtain rfl := List.mem_singleton.mp hcd
    exact hd

/-- Between single quotes, only the lines after the first are indented. -/
lemma single_of_unbroken (n : Nat) {s : List Char} (h : ∀ c ∈ s, isBreak c = false) :
    single n s = '\'' :: doubled s ++ ['\''] := by
  have hlast : s.getLast?.any isBreak = false := by
    cases hc : s.getLast? with
    | none => rfl
    | some c => simpa using h c (List.mem_of_getLast? hc)
  rw [single, hlast, indented_of_unbroken n fun c hc => h c (mem_of_mem_doubled hc)]
  simp

/-- An indented text is put together character by character. -/
lemma indented_eq_append (n : Nat) (fresh : Bool) (c : Char) (s : List Char) :
    indented n fresh (c :: s) = indented n fresh [c] ++ indented n (isBreak c) s := by
  cases hc : isBreak c with
  | true => rw [indented_cons_break hc, indented_cons_break hc]; rfl
  | false => simp [indented, hc]

/-- Whether a line is about to start behind a text. -/
def endsFresh (fresh : Bool) (s : List Char) : Bool :=
  match s.getLast? with
  | none => fresh
  | some c => isBreak c

lemma endsFresh_cons (fresh : Bool) (c : Char) (s : List Char) :
    endsFresh fresh (c :: s) = endsFresh (isBreak c) s := by
  cases s with
  | nil => rfl
  | cons d s => simp [endsFresh, List.getLast?_cons]

lemma endsFresh_concat (fresh : Bool) (s : List Char) (c : Char) :
    endsFresh fresh (s ++ [c]) = isBreak c := by
  simp [endsFresh]

lemma getLast?_indented (n : Nat) (fresh : Bool) (s : List Char) :
    (indented n fresh s).getLast? = s.getLast? := by
  induction s generalizing fresh with
  | nil => rfl
  | cons c s ih =>
    have hlast : (indented n fresh [c]).getLast? = some c := by
      cases hc : isBreak c with
      | true => simp [indented, hc]
      | false => simp [indented, hc]
    rw [indented_eq_append, List.getLast?_append, ih, hlast, List.getLast?_cons]
    cases s.getLast? <;> rfl

/-- A block ends as its text does. -/
lemma getLast?_literal (n : Nat) {s : List Char} (hs : s ≠ []) :
    (literal n s).getLast? = s.getLast? := by
  have hlast := getLast?_indented n true s
  obtain ⟨c, hc⟩ : ∃ c, s.getLast? = some c := ⟨s.getLast hs, List.getLast?_eq_some_getLast hs⟩
  rw [literal, List.getLast?_append, List.getLast?_cons, hlast, hc]
  rfl

end Quoting

/-! ## The choice read backwards -/

namespace Style

variable {wished : Style} {inKey : Bool} {s : List Char}

/-- A text with a line feed asks for a block. -/
def Meets (wished : Style) (s : List Char) : Prop := '\n' ∈ s → wished = .literal

lemma meets_wish (s : String) : Meets (wish s) s.toList := by
  intro h
  simp [wish, h]

/-- A text is written plain if it asks for that and its traits allow it. -/
lemma choose_eq_plain_iff :
    choose wished inKey s = .plain ↔
      wished = .plain ∧ (Traits.of s).allowsPlain = true ∧ (s ≠ [] ∨ inKey = false) := by
  constructor
  · intro h
    unfold choose at h
    cases wished <;> simp only at h <;> split_ifs at h
    simp_all
  · rintro ⟨rfl, hplain, hempty⟩
    have hbreaks : (Traits.of s).breaks = false := by
      simp only [Traits.allowsPlain, Bool.not_eq_true', Bool.or_eq_false_iff] at hplain
      exact hplain.1.2
    have hkey : (!(s = [] && inKey)) = true := by simpa [← or_iff_not_imp_left] using hempty
    simp [choose, hbreaks, hplain, hkey]

lemma choose_eq_single (h : choose wished inKey s = .single) :
    wished ≠ .literal ∧ (Traits.of s).allowsSingle = true ∧
      ¬ (inKey = true ∧ (Traits.of s).breaks = true) := by
  unfold choose at h
  cases wished <;> simp only at h <;> split_ifs at h <;> simp_all

lemma choose_eq_literal (h : choose wished inKey s = .literal) :
    inKey = false ∧ (Traits.of s).allowsBlock s = true := by
  unfold choose at h
  cases wished <;> simp only at h <;> split_ifs at h
  simp_all

/-- A text asks for a block exactly if it has several lines. -/
lemma wish_eq_literal_iff (s : String) : wish s = .literal ↔ '\n' ∈ s.toList := by
  unfold wish
  split
  · simp_all
  · split
    · simp_all
    · simp_all

lemma choose_eq_literal_iff :
    choose wished inKey s = .literal ↔
      wished = .literal ∧ inKey = false ∧ (Traits.of s).allowsBlock s = true := by
  constructor
  · intro h
    refine ⟨?_, choose_eq_literal h⟩
    by_contra hwished
    unfold choose at h
    cases wished <;> simp only at h <;> split_ifs at h
    exact hwished rfl
  · rintro ⟨rfl, rfl, hallows⟩
    simp [choose, hallows]

lemma plainText_of_choose (hs : s ≠ []) (h : choose wished inKey s = .plain) : PlainText s :=
  Traits.plainText_of_allowsPlain hs (choose_eq_plain_iff.mp h).2.1

lemma singleText_of_choose (hmeets : Meets wished s) (h : choose wished inKey s = .single) :
    SingleText s := by
  obtain ⟨hliteral, hallows, -⟩ := choose_eq_single h
  exact Traits.singleText_of_allowsSingle (fun hfeed => hliteral (hmeets hfeed)) hallows

/-- Only printable characters stand between single quotes. -/
lemma printable_of_choose_single (h : choose wished inKey s = .single) :
    ∀ c ∈ s, isPrintable c = true := by
  have hallows := (choose_eq_single h).2.1
  simp only [Traits.allowsSingle, Bool.not_eq_true', Bool.or_eq_false_iff] at hallows
  exact Traits.printable_of_special hallows.2

/-- The form in which a text is read back when it is written in the style that it asks for. -/
def form (wished : Style) (s : List Char) : ScalarForm :=
  if choose wished false s = .plain then .plain else .quoted

/-- A text is plain as a key exactly if it is plain as a value. -/
lemma choose_key_eq_plain_iff (hempty : s = [] → wished ≠ .plain) :
    choose wished true s = .plain ↔ choose wished false s = .plain := by
  rw [choose_eq_plain_iff, choose_eq_plain_iff]
  have hs : wished = .plain → s ≠ [] := fun hplain hs => hempty hs hplain
  constructor
  · exact fun h => ⟨h.1, h.2.1, .inr rfl⟩
  · exact fun h => ⟨h.1, h.2.1, .inl (hs h.1)⟩

lemma literalText_of_choose (h : choose wished inKey s = .literal) : LiteralText s :=
  Traits.literalText_of_allowsBlock (choose_eq_literal h).2

/-- The written form of a key is not empty. -/
lemma write_key_ne_nil (hempty : s = [] → wished ≠ .plain) :
    Quoting.write (choose wished true s) 0 s ≠ [] := by
  cases hstyle : choose wished true s with
  | plain => exact fun hs => hempty hs (choose_eq_plain_iff.mp hstyle).1
  | single => simp [Quoting.write, Quoting.single]
  | double => simp [Quoting.write, Quoting.double]
  | literal => exact absurd (choose_eq_literal hstyle).1 (by simp)

end Style
end Sidecars.Yaml
