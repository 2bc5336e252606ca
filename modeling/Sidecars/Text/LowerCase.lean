import Sidecars.Text.LowerCase.Table

/-!
# Lower case

The lower-case form of a text by the full mapping of Unicode.  Every character is mapped by
itself, with two exceptions: the capital I with a dot becomes two characters, and the form of a
capital sigma depends on whether it ends a word.
-/

namespace Sidecars.Text.LowerCase

/-- Whether a number lies in one of the ranges. -/
def inRanges (ranges : List (Nat × Nat)) (n : Nat) : Bool :=
  ranges.any fun (first, last) => first ≤ n && n ≤ last

/-- Letters that have a case. -/
def isCased (c : Char) : Bool :=
  if c.toNat < 0x80 then c.isAlpha else inRanges casedRanges c.toNat

/-- Characters that stand inside a word without ending it. -/
def isIgnorable (c : Char) : Bool :=
  if c.toNat < 0x80 then c = '\'' || c = '.' || c = ':' || c = '^' || c.toNat = 0x60
  else inRanges ignorableRanges c.toNat

/-- The code point of the lower-case form of a character beyond ASCII. -/
def shift (n : Nat) : Nat :=
  match shifts.find? fun (first, last, step, _) => first ≤ n && n ≤ last && (n - first) % step = 0
  with
  | some (_, _, _, delta) => (Int.ofNat n + delta).toNat
  | none => n

/-- The lower-case form of a character by itself. -/
def lowerChar (c : Char) : List Char :=
  if c.toNat < 0x80 then [c.toLower]
  else if c.toNat = 0x130 then ['i', '\u0307']
  else [Char.ofNat (shift c.toNat)]

/-- Whether a word goes on in the given direction: the first character that is not ignorable is
cased. -/
def wordGoesOn (cs : List Char) : Bool :=
  match cs.dropWhile isIgnorable with
  | c :: _ => isCased c
  | [] => false

/-- The lower-case form of a text that follows the characters `before`, the nearest first. -/
def lowerFrom (before : List Char) : List Char → List Char
  | [] => []
  | c :: rest =>
    (if c = 'Σ' then
      [if wordGoesOn before && !wordGoesOn rest then 'ς' else 'σ']
    else lowerChar c) ++ lowerFrom (c :: before) rest

/-- The lower-case form of a text. -/
def lower (s : String) : String :=
  String.ofList (lowerFrom [] s.toList)

end Sidecars.Text.LowerCase
