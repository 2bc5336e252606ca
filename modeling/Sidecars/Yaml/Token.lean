import Sidecars.Text.Utf8
import Sidecars.Yaml.Char
import Sidecars.Yaml.Fault

/-!
# Tokens of a document

The marks of structure and the pieces of content into which a document is cut before its structure
is read.  The bounds of collections in block style, which the text shows only by indentation, and
the keys in front of a colon are tokens of their own.
-/

namespace Sidecars.Yaml

/-- Whether a scalar was written without quotes. -/
inductive ScalarForm where
  /-- As it is. -/
  | plain
  /-- Between quotes or as a block. -/
  | quoted
deriving DecidableEq, Repr

/-- A token without its place. -/
inductive TokenKind where
  | streamStart
  | streamEnd
  | versionDirective (major minor : Nat)
  | tagDirective (handle : List Char) (expansion : Bytes)
  | documentStart
  | documentEnd
  | blockSequenceStart
  | blockMappingStart
  | blockEnd
  | flowSequenceStart
  | flowSequenceEnd
  | flowMappingStart
  | flowMappingEnd
  | blockEntry
  | flowEntry
  | key
  | value
  | alias (name : List Char)
  | anchor (name : List Char)
  | tag (handle : List Char) (suffix : Bytes)
  | scalar (text : List Char) (form : ScalarForm)
deriving DecidableEq, Repr, Inhabited

/-- A token and where it starts. -/
structure Token where
  /-- What the token is. -/
  kind : TokenKind
  /-- Where it starts. -/
  mark : Mark
deriving DecidableEq, Repr, Inhabited

/-- The rest of a text and its place. -/
structure Cursor where
  /-- The characters that are left. -/
  rest : List Char
  /-- The place of the first of them. -/
  mark : Mark
deriving DecidableEq, Repr

namespace Cursor

/-- Behind the next `n` characters, none of which breaks the line. -/
def skip (c : Cursor) (n : Nat) : Cursor := ⟨c.rest.drop n, c.mark.advance n⟩

/-- Behind the characters at the head that satisfy `p`. -/
def skipWhile (p : Char → Bool) (c : Cursor) : Cursor :=
  ⟨c.rest.dropWhile p, c.mark.advance (c.rest.takeWhile p).length⟩

/-- Behind the line break at the head, if there is one. -/
def skipBreak (c : Cursor) : Cursor :=
  match c.rest with
  | '\r' :: '\n' :: rest => ⟨rest, c.mark.newLine 2⟩
  | b :: rest => if isBreak b then ⟨rest, c.mark.newLine 1⟩ else c
  | [] => c

end Cursor
end Sidecars.Yaml
