import Sidecars.Proofs.Sidecar.Frontmatter
import Sidecars.Proofs.Text.Lines
import Sidecars.Proofs.Yaml.Distinct

/-!
# What is read as a sidecar

A text is read as a sidecar when its first line and its last one are delimiters and a document with
the metadata stands between them.  What stands before the closing delimiter in its own line is
taken as the end of the document.

* `Framed` is the frame, `Holds` is the metadata in a document and `IsSidecar` puts them together;
* `body?_eq_some_iff_framed` finds the frame, and `parseChars_eq_ok_iff` the metadata in it;
* `ofContents_eq_ok_iff` is the bytes that are read as a sidecar.
-/

namespace Sidecars.Frontmatter

open Text

variable {text body glued glued' : List Char} {metadata : Metadata}

/-- A document between two delimiters that are the first and the last line of a text, where
`glued` stands before the closing delimiter in its line. -/
def Framed (glued text body : List Char) : Prop :=
  ∃ lines, text.splitOn '\n' = delimiter :: lines ++ [glued ++ delimiter, []] ∧
    body = ended lines ++ glued

/-- A mapping, possibly under tags, binds the key of the metadata to a mapping without a tag. -/
def Holds (v : Yaml.Value) (metadata : Metadata) : Prop :=
  ∃ es, v.untagged = .mapping es ∧ (.string metadataKey, .mapping metadata) ∈ es

/-! ## The frame -/

lemma dropStart?_eq_some_iff {start s rest : List Char} :
    dropStart? start s = some rest ↔ s = start ++ rest := by
  constructor
  · intro h
    induction start generalizing s with
    | nil => simpa [dropStart?] using h
    | cons a start ih =>
      cases s with
      | nil => cases h
      | cons b s =>
        rw [dropStart?] at h
        split at h
        · rename_i hab
          rw [hab, ih h, List.cons_append]
        · cases h
  · rintro rfl
    exact dropStart?_append start rest

lemma body?_eq_some_iff :
    body? text = some body ↔ text = delimiter ++ '\n' :: body ++ delimiter ++ ['\n'] := by
  constructor
  · intro h
    simp only [body?, Option.bind_eq_bind, Option.bind_eq_some_iff, dropStart?_eq_some_iff,
      Option.pure_def, Option.some.injEq] at h
    obtain ⟨rest, rfl, reversed, hrest, rfl⟩ := h
    rw [← List.reverse_reverse rest, hrest]
    simp
  · rintro rfl
    exact body?_eq body

/-- The frame, with its line feeds written out. -/
lemma framed_iff :
    Framed glued text body ↔ ∃ lines, body = ended lines ++ glued ∧
      (∀ l ∈ lines ++ [glued], '\n' ∉ l) ∧
      text = delimiter ++ '\n' :: body ++ delimiter ++ ['\n'] := by
  have hdelimiter : '\n' ∉ delimiter := by decide
  have hsplit (lines : List (List Char)) :
      delimiter :: lines ++ [glued ++ delimiter, []] =
        (delimiter :: lines ++ [glued ++ delimiter]) ++ [[]] := by simp
  unfold Framed
  refine exists_congr fun lines => ?_
  rw [hsplit, splitOn_eq_concat_iff, and_comm]
  refine and_congr_right ?_
  rintro rfl
  rw [and_comm]
  refine and_congr ?_ ?_
  · simp [hdelimiter, or_imp, forall_and]
  · simp

/-- The text between the delimiters. -/
theorem body?_eq_some_iff_framed : body? text = some body ↔ ∃ glued, Framed glued text body := by
  rw [body?_eq_some_iff]
  constructor
  · intro h
    obtain ⟨lines, glued, hbody, hlines⟩ := exists_lines body
    exact ⟨glued, framed_iff.mpr ⟨lines, hbody, hlines, h⟩⟩
  · rintro ⟨glued, hframed⟩
    obtain ⟨-, -, -, h⟩ := framed_iff.mp hframed
    exact h

/-- A text shows what stands before its closing delimiter. -/
lemma Framed.unique {body' : List Char} (h : Framed glued text body)
    (h' : Framed glued' text body') : glued = glued' := by
  obtain ⟨lines, hlines, -⟩ := h
  obtain ⟨lines', hlines', -⟩ := h'
  have hends := (List.append_inj' (hlines.symm.trans hlines') rfl).2
  simpa using hends

/-! ## The metadata -/

/-- The texts that are read as the text of a sidecar. -/
theorem parseChars_eq_ok_iff :
    parseChars text = .ok metadata ↔
      ∃ glued body v, Framed glued text body ∧ Yaml.read body = .ok v ∧ Holds v metadata := by
  have hfield {body : List Char} {v : Yaml.Value} (hv : Yaml.read body = .ok v) :
      v.field? metadataKey = some (.mapping metadata) ↔ Holds v metadata :=
    (Yaml.distinct_of_read hv).field?_eq_some_iff
  constructor
  · intro h
    unfold parseChars at h
    split at h
    · cases h
    · rename_i body hbody
      obtain ⟨glued, hframed⟩ := body?_eq_some_iff_framed.mp hbody
      split at h
      · cases h
      · rename_i v hv
        split at h
        · rename_i m hm
          cases h
          exact ⟨glued, body, v, hframed, hv, (hfield hv).mp hm⟩
        · cases h
  · rintro ⟨glued, body, v, hframed, hv, hholds⟩
    have hbody := body?_eq_some_iff_framed.mpr ⟨glued, hframed⟩
    simp [parseChars, hbody, hv, (hfield hv).mpr hholds]

end Sidecars.Frontmatter

namespace Sidecars.Sidecar

open Frontmatter

variable {glued : List Char} {contents : Bytes} {metadata : Metadata} {p : Path}

/-- Bytes that are the text of a sidecar, where `glued` stands before the closing delimiter in its
line. -/
def IsSidecar (glued : List Char) (contents : Bytes) (metadata : Metadata) : Prop :=
  ∃ text body v, contents = Text.Utf8.encodeChars text ∧ Framed glued text body ∧
    Yaml.read body = .ok v ∧ Holds v metadata

/-- Bytes show what stands before their closing delimiter. -/
lemma IsSidecar.unique {glued' : List Char} {metadata' : Metadata}
    (h : IsSidecar glued contents metadata) (h' : IsSidecar glued' contents metadata') :
    glued = glued' := by
  obtain ⟨text, body, v, hcontents, hframed, -⟩ := h
  obtain ⟨text', body', v', hcontents', hframed', -⟩ := h'
  obtain rfl : text = text' := by
    have htext := Text.Utf8.decodeChars?_eq_some_iff.mpr hcontents
    rw [Text.Utf8.decodeChars?_eq_some_iff.mpr hcontents', Option.some.injEq] at htext
    exact htext.symm
  exact hframed.unique hframed'

/-- The bytes that are read as a sidecar. -/
theorem ofContents_eq_ok_iff :
    ofContents p contents = .ok metadata ↔ ∃ glued, IsSidecar glued contents metadata := by
  constructor
  · intro h
    unfold ofContents at h
    split at h
    · cases h
    · rename_i text htext
      split at h
      · rename_i m hm
        cases h
        obtain ⟨glued, body, v, hframed, hv, hholds⟩ := parseChars_eq_ok_iff.mp hm
        have hcontents := Text.Utf8.decodeChars?_eq_some_iff.mp htext
        exact ⟨glued, text, body, v, hcontents, hframed, hv, hholds⟩
      · cases h
      · cases h
  · rintro ⟨glued, text, body, v, rfl, hframed, hv, hholds⟩
    have hparse := parseChars_eq_ok_iff.mpr ⟨glued, body, v, hframed, hv, hholds⟩
    simp only [ofContents, Text.Utf8.decodeChars?_encodeChars, hparse]

/-- A path is read as a sidecar when its file is one.  The files between whose lines a document
stands are all that is read exactly when nothing is glued to a closing delimiter. -/
theorem read_eq_ok_iff (fs : FileSystem) (p : Path) :
    (∀ metadata, read fs p = .ok metadata ↔
      ∃ contents glued, fs.read p = .ok contents ∧ IsSidecar glued contents metadata) ∧
    ((∀ metadata, read fs p = .ok metadata ↔
        ∃ contents, fs.read p = .ok contents ∧ IsSidecar [] contents metadata) ↔
      ∀ contents glued metadata, fs.read p = .ok contents → IsSidecar glued contents metadata →
        glued = []) := by
  have hread : ∀ metadata, read fs p = .ok metadata ↔
      ∃ contents glued, fs.read p = .ok contents ∧ IsSidecar glued contents metadata := by
    intro metadata
    unfold read
    split
    · rename_i e he
      simp [he]
    · rename_i contents hcontents
      simp [hcontents, ofContents_eq_ok_iff]
  refine ⟨hread, ?_, ?_⟩
  · intro hall contents glued metadata hcontents hsidecar
    obtain ⟨contents', hcontents', hsidecar'⟩ :=
      (hall metadata).mp ((hread metadata).mpr ⟨contents, glued, hcontents, hsidecar⟩)
    obtain rfl : contents = contents' := by simpa [hcontents] using hcontents'
    exact hsidecar.unique hsidecar'
  · intro hnone metadata
    rw [hread metadata]
    constructor
    · rintro ⟨contents, glued, hcontents, hsidecar⟩
      obtain rfl := hnone contents glued metadata hcontents hsidecar
      exact ⟨contents, hcontents, hsidecar⟩
    · rintro ⟨contents, hcontents, hsidecar⟩
      exact ⟨contents, [], hcontents, hsidecar⟩

/-! ## A delimiter with something before it -/

/-- The make of a camera as metadata. -/
def made : Metadata := [(.string "Make", .string "Acme")]

/-- The name `side.md`. -/
def gluedName : Name where
  bytes := Binary.ascii "side.md"
  plain := by decide

/-- A text that has a delimiter behind the make in the last line. -/
def gluedText : List Char := "---\norigin_metadata:\n  Make: Acme---\n".toList

/-- A file system with that text in a file. -/
def gluedSystem : FileSystem where
  root := .directory 0o755 [(gluedName, .file 0o644 (Text.Utf8.encodeChars gluedText))]
  current := []
  umask := 0o022

lemma framed_gluedText :
    Framed "  Make: Acme".toList gluedText "origin_metadata:\n  Make: Acme".toList :=
  ⟨["origin_metadata:".toList], by decide, by decide⟩

lemma legible_made : Yaml.Legible 127 (.mapping made) :=
  .mapping (by simp [made]) (by simp [made]) (by simp [made, Yaml.Legible.string])

lemma read_made : Yaml.read "origin_metadata:\n  Make: Acme".toList =
    .ok (.mapping (document made)) :=
  Yaml.read_of_stream (legible_document legible_made) (by decide +kernel) (by decide +kernel)

/-- The text is read as a sidecar, with the make up to the delimiter, though its last line is not a
delimiter. -/
theorem read_glued :
    read gluedSystem ⟨gluedName.bytes⟩ = .ok made ∧
      ¬ ∃ contents metadata, gluedSystem.read ⟨gluedName.bytes⟩ = .ok contents ∧
        IsSidecar [] contents metadata := by
  have hread : gluedSystem.read ⟨gluedName.bytes⟩ = .ok (Text.Utf8.encodeChars gluedText) := rfl
  have hsidecar :
      IsSidecar "  Make: Acme".toList (Text.Utf8.encodeChars gluedText) made :=
    ⟨gluedText, _, _, rfl, framed_gluedText, read_made, document made, rfl, by simp [document]⟩
  constructor
  · rw [read, hread]
    exact ofContents_eq_ok_iff.mpr ⟨_, hsidecar⟩
  · rintro ⟨contents, metadata, hcontents, hframed⟩
    obtain rfl : Text.Utf8.encodeChars gluedText = contents := by simpa [hread] using hcontents
    exact absurd (hsidecar.unique hframed) (by decide)

end Sidecars.Sidecar
