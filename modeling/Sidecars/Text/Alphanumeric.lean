import Sidecars.Text.Alphanumeric.Table
import Sidecars.Text.LowerCase

/-!
# Classes of characters

Letters and numbers, and the characters that are only space, as Unicode has them.
-/

namespace Sidecars.Text.Alphanumeric

/-- Whether a character is alphabetic or a number. -/
def holds (c : Char) : Bool := LowerCase.inRanges ranges c.toNat

/-- Whether a character is space. -/
def isSpace (c : Char) : Bool :=
  LowerCase.inRanges [(0x9, 0xD), (0x20, 0x20), (0x85, 0x85), (0xA0, 0xA0), (0x1680, 0x1680),
    (0x2000, 0x200A), (0x2028, 0x2029), (0x202F, 0x202F), (0x205F, 0x205F), (0x3000, 0x3000)]
    c.toNat

example : holds 'a' && holds '7' && holds 'é' && !holds '_' && !holds '"' := by decide +kernel

end Sidecars.Text.Alphanumeric
