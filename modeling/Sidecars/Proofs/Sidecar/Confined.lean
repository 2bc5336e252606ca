import Sidecars.Proofs.Sidecar.Frontmatter
import Sidecars.Proofs.Yaml.Inset

/-!
# Metadata stays in its block

Whatever the metadata holds, it puts no line at the margin of its sidecar: the document between the
delimiters starts with the key of the metadata, and every line behind its first is empty or
indented.  So no text of a media file makes a delimiter, an end of the document or a second key.

* `bodyOf_eq` is the document, and `inset_bodyOf` its indentation;
* `render_confined` says it of the lines, once as a line feed ends them and once as any line break
  does.
-/

namespace Sidecars.Frontmatter

open Yaml

variable {metadata : Metadata} {chars s u : List Char} {ends skips : Char → Bool}

/-- What the document starts with. -/
def opening : List Char := metadataKey.toList ++ [':']

/-- The line breaks other than the line feed that a document may hold as they are. -/
def isSeparator (c : Char) : Bool := c = '\u2028' || c = '\u2029'

lemma shown_opening : Shown opening := by decide

/-! ## The document -/

/-- What is written stands between two delimiters. -/
lemma eq_of_renderChars (h : renderChars metadata = .ok chars) :
    chars = delimiter ++ '\n' :: bodyOf metadata ++ delimiter ++ ['\n'] := by
  cases haudit : (Value.mapping (document metadata)).audit false with
  | error e => simp [renderChars, Yaml.render, haudit, Bind.bind, Except.bind] at h
  | ok pending =>
    cases pending with
    | true => simp [renderChars, Yaml.render, haudit, Bind.bind, Except.bind, throw,
        throwThe, MonadExceptOf.throw] at h
    | false =>
      simp only [renderChars, Yaml.render, haudit, Bind.bind, Except.bind] at h
      exact (Except.ok.inj h).symm

lemma bodyOf_eq (metadata : Metadata) :
    bodyOf metadata = opening ++ (Value.mapping metadata).written ⟨0, true, false⟩ := by
  have hkey : (Value.string metadataKey).simpleKey? = some metadataKey.toList := by rfl
  simp [bodyOf, document, writtenEntries, hkey, opening]

lemma inset_bodyOf (metadata : Metadata) : Inset (bodyOf metadata) := by
  rw [bodyOf_eq]
  exact .append_unbroken shown_opening.unbroken (inset_mapping _ (fun e _ => inset_written e.1)
    fun e _ => inset_written e.2)

/-- The only printable line breaks are the line feed and the separators. -/
lemma isBreak_of_isPrintable {c : Char} (h : isPrintable c = true) :
    isBreak c = (c == '\n' || isSeparator c) := by
  simp [isBreak, isSeparator, ne_return_of_isPrintable h, ne_nextLine_of_isPrintable h,
    Bool.or_assoc, beq_eq_decide]

/-- The only line breaks in the document are line feeds and separators. -/
lemma isBreak_of_mem_bodyOf {c : Char} (h : c ∈ bodyOf metadata) :
    isBreak c = (c == '\n' || isSeparator c) := by
  apply isBreak_of_isPrintable
  rw [bodyOf_eq] at h
  rcases List.mem_append.mp h with h | h
  · exact (shown_opening c h).1
  · exact (Value.mapping metadata).isPrintable_of_mem _ c h

/-! ## Lines -/

lemma splitOnP_append (hu : ∀ c ∈ u, ends c = false) (s : List Char) :
    (u ++ s).splitOnP ends = (s.splitOnP ends).modifyHead (u ++ ·) := by
  induction u with
  | nil => exact (congrFun List.modifyHead_id _).symm
  | cons c u ih =>
    rw [List.cons_append, List.splitOnP_cons_eq_if_modifyHead, if_neg (by simp [hu c (by simp)]),
      ih fun d hd => hu d (by simp [hd]), List.modifyHead_modifyHead]
    rfl

/-- The lines of the document, whichever of the line breaks end them. -/
lemma lines_bodyOf (hbreak : ∀ c ∈ bodyOf metadata, isBreak c = (ends c || skips c)) :
    ∃ first rest, (bodyOf metadata).splitOnP ends = first :: rest ∧ opening <+: first ∧
      ∀ line ∈ rest, Indented (line.dropWhile skips) := by
  have hopening : ∀ c ∈ opening, ends c = false := by
    intro c hc
    have hends := hbreak c (by rw [bodyOf_eq]; exact List.mem_append_left _ hc)
    rw [shown_opening.unbroken c hc] at hends
    exact (Bool.or_eq_false_iff.mp hends.symm).1
  have htail := (inset_bodyOf metadata).indented_of_mem_tail hbreak
  rw [bodyOf_eq, splitOnP_append hopening] at htail ⊢
  obtain ⟨line, rest, hlines⟩ := List.exists_cons_of_ne_nil
    (List.splitOnP_ne_nil ends ((Value.mapping metadata).written ⟨0, true, false⟩))
  rw [hlines] at htail ⊢
  exact ⟨opening ++ line, rest, rfl, List.prefix_append _ _, htail⟩

/-- Metadata that is written stays in its block.  The document between the delimiters holds no line
breaks but line feeds and separators.  Its first line starts with the key of the metadata.  Every
other line that a line feed ends is empty or starts with two spaces once the separators are taken
off its start; every other line that any line break ends does so as it is. -/
theorem render_confined {text : String} (h : render metadata = .ok text) :
    ∃ body, text.toList = delimiter ++ '\n' :: body ++ delimiter ++ ['\n'] ∧
      (∀ c ∈ body, isBreak c = (c == '\n' || isSeparator c)) ∧
      (∃ first rest, body.splitOn '\n' = first :: rest ∧ opening <+: first ∧
        ∀ line ∈ rest, Indented (line.dropWhile isSeparator)) ∧
      ∃ first rest, body.splitOnP isBreak = first :: rest ∧ opening <+: first ∧
        ∀ line ∈ rest, Indented line := by
  have htext : text.toList = delimiter ++ '\n' :: bodyOf metadata ++ delimiter ++ ['\n'] := by
    unfold render at h
    cases hchars : renderChars metadata with
    | error e => simp [hchars, Except.map] at h
    | ok chars =>
      obtain rfl : String.ofList chars = text := by simpa [hchars, Except.map] using h
      rw [String.toList_ofList, eq_of_renderChars hchars]
  refine ⟨bodyOf metadata, htext, fun c => isBreak_of_mem_bodyOf, ?_, ?_⟩
  · exact lines_bodyOf fun c => isBreak_of_mem_bodyOf
  · -- no line break is left to be taken off
    have hnothing (line : List Char) : line.dropWhile (fun _ => false) = line := by
      cases line <;> rfl
    have hlines := @lines_bodyOf metadata isBreak (fun _ => false) (by simp)
    simpa only [hnothing] using hlines

/-! ## A separator at the start of a line -/

/-- A text with a separator at the start of its second line. -/
def separated : Metadata := [(.string "k", .string "a\n\u2028b")]

/-- The document with that text: the empty line that the separator ends is not indented. -/
lemma bodyOf_separated :
    bodyOf separated = "origin_metadata:\n  k: |-\n    a\n\u2028    b\n".toList := by
  decide +kernel

lemma render_separated :
    render separated = .ok (String.ofList
      (delimiter ++ '\n' :: bodyOf separated ++ delimiter ++ ['\n'])) := by
  have hportable : Portable 127 (.mapping separated) :=
    .mapping (by simp [separated]) (by simp [separated]) (by simp [separated, Portable.string])
  rw [render, renderChars_eq hportable]
  rfl

/-- The text stays in its block. -/
theorem render_confined_separated :
    ∃ text body, render separated = .ok text ∧
      text.toList = delimiter ++ '\n' :: body ++ delimiter ++ ['\n'] ∧
      ∃ first rest, body.splitOn '\n' = first :: rest ∧ opening <+: first ∧
        ∀ line ∈ rest, Indented (line.dropWhile isSeparator) := by
  obtain ⟨body, htext, -, hlines, -⟩ := render_confined render_separated
  exact ⟨_, body, render_separated, htext, hlines⟩

/-- The line that the separator starts is neither empty nor does it start with two spaces. -/
theorem render_separated_unindented :
    ∃ text, render separated = .ok text ∧
      ∀ body, text.toList = delimiter ++ '\n' :: body ++ delimiter ++ ['\n'] →
        ¬ ∀ line ∈ (body.splitOn '\n').tail, line = [] ∨ [' ', ' '] <+: line := by
  refine ⟨_, render_separated, fun body hbody => ?_⟩
  have hbody : bodyOf separated = body := by simpa using hbody
  rw [← hbody, bodyOf_separated]
  decide

end Sidecars.Frontmatter
