import Sidecars.Yaml.Char
import Sidecars.Yaml.Scalar

/-!
# How a text is written

A scalar is written plain, between single or double quotes, or as a literal block.  `Traits` is
what the choice looks at; `Traits.of` reads it off the characters.  The choice itself is `choose`:
a wish, given by what the text says, is met if the traits allow it, and otherwise falls back to a
style that can hold more.
-/

namespace Sidecars.Yaml

/-- The ways to write a scalar. -/
inductive Style where
  /-- As it is. -/
  | plain
  /-- Between single quotes. -/
  | single
  /-- Between double quotes, with escapes. -/
  | double
  /-- As an indented block that keeps its lines. -/
  | literal
deriving DecidableEq, Repr

/-- What can be said of a text's characters, as far as its style depends on them. -/
structure Traits where
  /-- The text would be taken for something else in a plain scalar. -/
  indicator : Bool
  /-- A character cannot be shown as it is. -/
  special : Bool
  /-- There is a line break. -/
  breaks : Bool
  /-- The first character is a space. -/
  leadingSpace : Bool
  /-- The first character is a line break. -/
  leadingBreak : Bool
  /-- The last character is a space. -/
  trailingSpace : Bool
  /-- The last character is a line break. -/
  trailingBreak : Bool
  /-- A space follows a line break. -/
  breakSpace : Bool
  /-- A line break follows a space. -/
  spaceBreak : Bool
deriving DecidableEq, Repr

namespace Traits

/-- Whether a character cannot start a plain scalar at all. -/
def isOpeningIndicator (c : Char) : Bool :=
  c = '#' || c = ',' || c = '[' || c = ']' || c = '{' || c = '}' || c = '&' || c = '*'
    || c = '!' || c = '|' || c = '>' || c = '\'' || c = '"' || c = '%' || c = '@'
    || c.toNat = 0x60

/-- Whether white space follows at the head of a text, or its end, or a character that is read as
one. -/
def whiteFollows : List Char → Bool
  | [] => true
  | c :: _ => isWhite c || c = '\u0000'

/-- Whether the first character of a text is an indicator. -/
def opens : List Char → Bool
  | [] => false
  | c :: rest =>
    isOpeningIndicator c || ((c = '?' || c = ':' || c = '-') && whiteFollows rest)

/-- Whether an indicator stands in a text after its first character; `before` is the character in
front. -/
def interrupts (before : Char) : List Char → Bool
  | [] => false
  | c :: rest =>
    (c = ':' && whiteFollows rest) || (c = '#' && (isWhite before || before = '\u0000'))
      || interrupts c rest

/-- Whether two neighbours in a text satisfy `p` and `q`. -/
def adjacent (p q : Char → Bool) : List Char → Bool
  | a :: b :: rest => (p a && q b) || adjacent p q (b :: rest)
  | _ => false

/-- Whether a character is a space. -/
def isSpace (c : Char) : Bool := c = ' '

/-- The traits of a text. -/
def of (s : List Char) : Traits where
  indicator :=
    s.take 3 = ['-', '-', '-'] || s.take 3 = ['.', '.', '.'] || opens s
      || (match s with
          | c :: rest => interrupts c rest
          | [] => false)
  special := s.any fun c => !isPrintable c
  breaks := s.any isBreak
  leadingSpace := s.head?.any isSpace
  leadingBreak := s.head?.any isBreak
  trailingSpace := s.getLast?.any isSpace
  trailingBreak := s.getLast?.any isBreak
  breakSpace := adjacent isBreak isSpace s
  spaceBreak := adjacent isSpace isBreak s

/-- Whether the text can be written plain. -/
def allowsPlain (t : Traits) : Bool :=
  !(t.leadingSpace || t.leadingBreak || t.trailingSpace || t.trailingBreak || t.breakSpace
    || t.spaceBreak || t.special || t.breaks || t.indicator)

/-- Whether the text can be written between single quotes. -/
def allowsSingle (t : Traits) : Bool :=
  !(t.breakSpace || t.spaceBreak || t.special)

/-- Whether the text can be written as a block; an empty one cannot. -/
def allowsBlock (s : List Char) (t : Traits) : Bool :=
  s ≠ [] && !(t.trailingSpace || t.spaceBreak || t.special)

end Traits

namespace Style

/-- The style that suits what a text says: a literal block for several lines, quotes for what
would be read as something other than a text. -/
def wish (s : String) : Style :=
  if s.toList.contains '\n' then .literal
  else if Scalar.meaning s ≠ .text || Scalar.isPaddedDigits s.toList then .single
  else .plain

/-- The style in which a text is written.  A key on the line of its value is never a block. -/
def choose (wished : Style) (inKey : Bool) (s : List Char) : Style :=
  let t := Traits.of s
  let quoted := if t.allowsSingle then .single else .double
  if inKey && t.breaks then .double
  else match wished with
    | .plain => if t.allowsPlain && !(s = [] && inKey) then .plain else quoted
    | .single => quoted
    | .double => .double
    | .literal => if t.allowsBlock s && !inKey then .literal else .double

end Style
end Sidecars.Yaml
