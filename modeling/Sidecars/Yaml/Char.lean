/-!
# Character classes of YAML

The classes that reading and writing a document share.  Besides carriage return and line feed,
three characters beyond ASCII break a line.
-/

namespace Sidecars.Yaml

/-- Space and tab. -/
def isBlank (c : Char) : Bool := c = ' ' || c = '\t'

/-- The characters that end a line. -/
def isBreak (c : Char) : Bool :=
  c = '\r' || c = '\n' || c = '\u0085' || c = '\u2028' || c = '\u2029'

/-- Blanks and line breaks. -/
def isWhite (c : Char) : Bool := isBlank c || isBreak c

/-- Whether a text is at its end or goes on with a blank or a line break. -/
def atWhite : List Char → Bool
  | [] => true
  | c :: _ => isWhite c

/-- Whether a text is at its end or at a line break. -/
def atLineEnd : List Char → Bool
  | [] => true
  | c :: _ => isBreak c

/-- The characters of names: ASCII letters and digits, the underscore and the hyphen. -/
def isWord (c : Char) : Bool := c.isAlphanum || c = '_' || c = '-'

/-- The characters that a document may hold as they are when it is written; the tab is written as
an escape. -/
def isPrintable (c : Char) : Bool :=
  let n := c.toNat
  c = '\n' || (0x20 ≤ n && n ≤ 0x7E) || (0xA0 ≤ n && n ≤ 0xD7FF)
    || (0xE000 ≤ n && n ≤ 0xFFFD && n ≠ 0xFEFF) || 0x10000 ≤ n

/-- The characters that a document may hold when it is read. -/
def isReadable (c : Char) : Bool :=
  let n := c.toNat
  n = 0x09 || n = 0x0A || n = 0x0D || (0x20 ≤ n && n ≤ 0x7E) || n = 0x85
    || (0xA0 ≤ n && n ≤ 0xD7FF) || (0xE000 ≤ n && n ≤ 0xFFFD) || 0x10000 ≤ n

/-- The character of a byte-order mark. -/
def byteOrderMark : Char := '\uFEFF'

end Sidecars.Yaml
