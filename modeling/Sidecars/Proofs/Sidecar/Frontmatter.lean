import Sidecars.Sidecar.Reading
import Sidecars.Proofs.Text.Utf8
import Sidecars.Proofs.Yaml.Document

/-!
# The text of a sidecar, there and back

Portable metadata is written, and what was written is read back: the same fields with the same
values, in the same order.  Legible metadata is read back with the same fields, too, and only
floating-point numbers in it may have become others.

* `Legible.audit` says that nothing keeps a legible value from being written;
* `renderChars_of_legible` is the text of a sidecar;
* `parseChars_of_legible` and `ofContents_of_legible` read it back;
* `renderChars_eq`, `parseChars_renderChars` and `ofContents_encodeChars` say the same of portable
  metadata.
-/

namespace Sidecars.Yaml

variable {depth : Nat} {v : Value} {xs : List Value} {es : Entries}

/-! ## Nothing keeps a legible value from being written -/

lemma auditItems_eq (h : ∀ x ∈ xs, x.audit false = .ok false) : auditItems xs = .ok false := by
  induction xs with
  | nil => rfl
  | cons x xs ih =>
    have hx := h x (by simp)
    have hxs := ih fun y hy => h y (by simp [hy])
    simp [auditItems, hx, hxs, Bind.bind, Except.bind]

lemma auditEntries_eq (hkeys : ∀ e ∈ es, ∃ s, e.1 = .string s)
    (h : ∀ e ∈ es, e.2.audit false = .ok false) : auditEntries es = .ok false := by
  induction es with
  | nil => rfl
  | cons e es ih =>
    obtain ⟨k, v⟩ := e
    obtain ⟨s, rfl⟩ : ∃ s, k = .string s := hkeys (k, v) (by simp)
    have hv : v.audit false = .ok false := h (.string s, v) (by simp)
    have hes := ih (fun e he => hkeys e (by simp [he])) fun e he => h e (by simp [he])
    simp [auditEntries, Value.audit, hv, hes, Bind.bind, Except.bind, pure, Except.pure]

lemma losesStart_eq_false (hkeys : ∀ e ∈ es, ∃ s, e.1 = .string s) : losesStart es = false := by
  unfold losesStart
  split
  · obtain ⟨s, hs⟩ := hkeys _ List.mem_cons_self
    simp at hs
  · obtain ⟨s, hs⟩ := hkeys _ List.mem_cons_self
    simp at hs
  · rfl

/-- Nothing keeps a legible value from being written. -/
theorem Legible.audit (h : Legible depth v) (underTag : Bool) : v.audit underTag = .ok false := by
  induction h generalizing underTag with
  | null | bool | int | float | string => rfl
  | sequence _ ih =>
    rw [Value.audit]
    exact auditItems_eq fun x hx => ih x hx false
  | mapping hkeys _ _ ih =>
    rw [Value.audit, auditEntries_eq hkeys fun e he => ih e he false]
    simp [losesStart_eq_false hkeys, Bind.bind, Except.bind, pure, Except.pure]

end Sidecars.Yaml

namespace Sidecars.Frontmatter

open Yaml

variable {metadata : Metadata} {p : Path}

/-! ## The document around metadata -/

/-- Metadata nests one deeper in its document. -/
lemma legible_document {depth : Nat} (h : Legible depth (.mapping metadata)) :
    Legible (depth + 1) (.mapping (document metadata)) := by
  refine .mapping ?_ (by simp [document]) ?_
  · simp [document]
  · simpa [document] using h

/-- The text between the delimiters. -/
def bodyOf (metadata : Metadata) : List Char := writtenEntries 0 [] (document metadata)

/-- Legible metadata is written. -/
theorem renderChars_of_legible {depth : Nat} (h : Legible depth (.mapping metadata)) :
    renderChars metadata = .ok (delimiter ++ '\n' :: bodyOf metadata ++ delimiter ++ ['\n']) := by
  have haudit := (legible_document h).audit false
  have hrender : Yaml.render (document metadata) = .ok (bodyOf metadata) := by
    unfold Yaml.render
    rw [haudit]
    rfl
  rw [renderChars, hrender]
  rfl

/-- Portable metadata is written. -/
theorem renderChars_eq {depth : Nat} (h : Portable depth (.mapping metadata)) :
    renderChars metadata = .ok (delimiter ++ '\n' :: bodyOf metadata ++ delimiter ++ ['\n']) :=
  renderChars_of_legible h.legible

/-! ## Reading it back -/

lemma dropStart?_append (start s : List Char) : dropStart? start (start ++ s) = some s := by
  induction start with
  | nil => rfl
  | cons a start ih => simp [dropStart?, ih]

lemma body?_eq (body : List Char) :
    body? (delimiter ++ '\n' :: body ++ delimiter ++ ['\n']) = some body := by
  have hstart : delimiter ++ '\n' :: body ++ delimiter ++ ['\n'] =
      (delimiter ++ ['\n']) ++ (body ++ delimiter ++ ['\n']) := by simp
  have hend : (body ++ delimiter ++ ['\n']).reverse =
      ('\n' :: delimiter.reverse) ++ body.reverse := by simp
  rw [body?, hstart, dropStart?_append, Option.bind_eq_bind, Option.bind_some, hend,
    dropStart?_append]
  simp

/-- Legible metadata is read back from the text of its sidecar. -/
theorem parseChars_of_legible (h : Legible 127 (.mapping metadata)) :
    parseChars (delimiter ++ '\n' :: bodyOf metadata ++ delimiter ++ ['\n']) =
      .ok (rereadEntries metadata) := by
  have hread : Yaml.read (bodyOf metadata) = .ok (Value.mapping (document metadata)).reread :=
    (legible_document h).read
  rw [parseChars, body?_eq]
  simp [hread, Value.reread, rereadEntries, Value.field?, Value.untagged, document, Entries.get?,
    Value.same]

/-- Portable metadata is read back from the text of its sidecar. -/
theorem parseChars_renderChars (h : Portable 127 (.mapping metadata)) :
    parseChars (delimiter ++ '\n' :: bodyOf metadata ++ delimiter ++ ['\n']) = .ok metadata := by
  have hsame : rereadEntries metadata = metadata := by
    have hreread := h.reread_eq
    rw [Value.reread] at hreread
    exact Value.mapping.inj hreread
  rw [parseChars_of_legible h.legible, hsame]

end Sidecars.Frontmatter

namespace Sidecars.Sidecar

open Frontmatter

variable {metadata : Metadata}

/-- Legible metadata is read back from the bytes of its sidecar. -/
theorem ofContents_of_legible (h : Yaml.Legible 127 (.mapping metadata)) (p : Path) :
    ofContents p (Text.Utf8.encodeChars
      (delimiter ++ '\n' :: bodyOf metadata ++ delimiter ++ ['\n'])) =
        .ok (Yaml.rereadEntries metadata) := by
  rw [ofContents, Text.Utf8.decodeChars?_encodeChars]
  simp only [parseChars_of_legible h]

/-- Portable metadata is read back from the bytes of its sidecar. -/
theorem ofContents_encodeChars (h : Yaml.Portable 127 (.mapping metadata)) (p : Path) :
    ofContents p (Text.Utf8.encodeChars
      (delimiter ++ '\n' :: bodyOf metadata ++ delimiter ++ ['\n'])) = .ok metadata := by
  rw [ofContents, Text.Utf8.decodeChars?_encodeChars]
  simp only [parseChars_renderChars h]

end Sidecars.Sidecar
