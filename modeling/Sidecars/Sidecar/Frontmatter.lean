import Sidecars.Metadata
import Sidecars.Yaml.Document

/-!
# The text of a sidecar

A sidecar holds the metadata of a media file as the front matter of an otherwise empty document:
a line `---`, a mapping with the single key `origin_metadata`, and a line `---`.

`render` writes metadata and `parse` reads it back.  Only the first and the last line are
delimiters, so a line `---` in between belongs to the mapping.
-/

namespace Sidecars.Frontmatter

/-- The key under which the metadata stands. -/
def metadataKey : String := "origin_metadata"

/-- The text of a delimiter line. -/
def delimiter : List Char := ['-', '-', '-']

/-- The document around metadata. -/
def document (metadata : Metadata) : Yaml.Entries :=
  [(.string metadataKey, .mapping metadata)]

/-- The text of a sidecar, as characters. -/
def renderChars (metadata : Metadata) : Except Yaml.WriteError (List Char) := do
  let body ← Yaml.render (document metadata)
  return delimiter ++ '\n' :: body ++ delimiter ++ ['\n']

/-- The text of a sidecar. -/
def render (metadata : Metadata) : Except Yaml.WriteError String :=
  (renderChars metadata).map String.ofList

/-- Why a text is no sidecar. -/
inductive ParseError where
  /-- The delimiters or the metadata are missing. -/
  | malformed
  /-- What stands between the delimiters is no document. -/
  | yaml (e : Yaml.ReadError)
deriving Repr

/-- What follows `start` in a text that starts with it. -/
def dropStart? : List Char → List Char → Option (List Char)
  | [], s => some s
  | _ :: _, [] => none
  | a :: start, b :: s => if a = b then dropStart? start s else none

/-- The text between the delimiters. -/
def body? (s : List Char) : Option (List Char) := do
  let rest ← dropStart? (delimiter ++ ['\n']) s
  let reversed ← dropStart? ('\n' :: delimiter.reverse) rest.reverse
  return reversed.reverse

/-- The metadata in the text of a sidecar. -/
def parseChars (s : List Char) : Except ParseError Metadata :=
  match body? s with
  | none => .error .malformed
  | some body =>
    match Yaml.read body with
    | .error e => .error (.yaml e)
    | .ok v =>
      match v.field? metadataKey with
      | some (.mapping metadata) => .ok metadata
      | _ => .error .malformed

/-- The metadata in the text of a sidecar. -/
def parse (s : String) : Except ParseError Metadata := parseChars s.toList

end Sidecars.Frontmatter
