import Sidecars.Text.Utf8
import Sidecars.Text.LowerCase
import Sidecars.Text.Escaped.Table

/-!
# Escaped form of text and of paths

The form in which a message shows a text between double quotes: the quotes and the backslash get
a backslash, the common control characters a letter, and every other character that would not be
visible by itself its number in braces.  Bytes that are no character are shown as two
hexadecimal digits.
-/

namespace Sidecars.Text.Escaped

/-- A digit below 36, in lower case. -/
def digit (n : Nat) : Char :=
  if n < 10 then Char.ofNat (0x30 + n) else Char.ofNat (0x57 + n)

/-- The hexadecimal digits of a number, without leading zeros. -/
def hexDigits (n : Nat) : List Char :=
  (Nat.toDigits 16 n)

/-- Exactly `width` digits of a number in the given base, the last ones. -/
def fixedDigits (base : Nat) : Nat → Nat → List Char
  | 0, _ => []
  | width + 1, n => fixedDigits base width (n / base) ++ [digit (n % base)]

/-- Whether a character is written by its number. -/
def isHidden (c : Char) : Bool :=
  c ≠ ' ' && (LowerCase.inRanges unprintableRanges c.toNat
    || LowerCase.inRanges extendingRanges c.toNat)

/-- The escaped form of one character; `single` says whether the single quote is escaped. -/
def escapeChar (single : Bool) (c : Char) : List Char :=
  if c = '\u0000' then ['\\', '0']
  else if c = '\t' then ['\\', 't']
  else if c = '\r' then ['\\', 'r']
  else if c = '\n' then ['\\', 'n']
  else if c = '\\' || c = '"' || (single && c = '\'') then ['\\', c]
  else if isHidden c then "\\u\x7b".toList ++ hexDigits c.toNat ++ "\x7d".toList
  else [c]

/-- A text between double quotes. -/
def quoteText (s : String) : String :=
  "\"" ++ String.ofList (s.toList.flatMap (escapeChar false)) ++ "\""

/-- A byte as two upper-case hexadecimal digits. -/
def escapeByte (b : UInt8) : List Char :=
  ['\\', 'x'] ++ (fixedDigits 16 2 b.toNat).map Char.toUpper

/-- The escaped form of a piece of a byte sequence. -/
def escapePiece : Utf8.Piece → List Char
  | .char c => escapeChar true c
  | .broken bs => bs.flatMap escapeByte

/-- A byte sequence between double quotes. -/
def quoteBytes (bytes : Bytes) : String :=
  "\"" ++ String.ofList ((Utf8.pieces bytes).flatMap escapePiece) ++ "\""

end Sidecars.Text.Escaped
