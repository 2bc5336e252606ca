import Sidecars.Audio.Reading

/-!
# Texts of tags

The encodings in which tags write text.  A text ends where its field ends, or at the first zero;
zeros at its end do not belong to it.
-/

namespace Sidecars.Audio

open Binary

/-- A text without the zeros at its end. -/
def trimZeros (s : List Char) : List Char :=
  (s.reverse.dropWhile (· = '\u0000')).reverse

/-- Latin-1: every byte is a character. -/
def latin1 (bs : Bytes) : List Char :=
  trimZeros (bs.map fun b => Char.ofNat b.toNat)

/-- UTF-8, if it is well-formed. -/
def utf8? (bs : Bytes) : Option (List Char) :=
  (Text.Utf8.decodeChars? bs).map trimZeros

/-- The characters of UTF-16 units, if every surrogate is half of a pair. -/
def unitsToChars? : List Nat → Option (List Char)
  | [] => some []
  | u :: us =>
    if u < 0xD800 ∨ 0xE000 ≤ u then (unitsToChars? us).map (Char.ofNat u :: ·)
    else if u < 0xDC00 then
      match us with
      | v :: us =>
        if 0xDC00 ≤ v ∧ v < 0xE000 then
          (unitsToChars? us).map
            (Char.ofNat (0x10000 + (u - 0xD800) * 0x400 + (v - 0xDC00)) :: ·)
        else none
      | [] => none
    else none

/-- The pairs of bytes of a sequence; half a pair at the end is left out. -/
def bytePairs : Bytes → List (UInt8 × UInt8)
  | a :: b :: rest => (a, b) :: bytePairs rest
  | _ => []

/-- The byte order that a byte order mark stands for. -/
def byteOrder? : UInt8 × UInt8 → Option Endian
  | (0xFE, 0xFF) => some .big
  | (0xFF, 0xFE) => some .little
  | _ => none

/-- The UTF-16 text of bytes in a byte order.  Byte order marks inside it are left out, because a
field may hold several texts with a mark each. -/
def utf16 (e : Endian) (bs : Bytes) : Except Error (List Char) :=
  let units := (bytePairs bs).filterMap fun p =>
    if (byteOrder? p).isSome then none else some (e.nat [p.1, p.2])
  match unitsToChars? units with
  | some s => .ok (trimZeros s)
  | none => .error (.text .notUtf16)

/-- How a text is encoded. -/
inductive Encoding where
  /-- Latin-1. -/
  | latin1
  /-- UTF-16 with a byte order mark. -/
  | utf16
  /-- UTF-16 with the most significant byte first. -/
  | utf16Big
  /-- UTF-8. -/
  | utf8
deriving DecidableEq, Repr

/-- The encoding that a byte stands for. -/
def Encoding.ofByte? (b : UInt8) : Option Encoding :=
  match b.toNat with
  | 0 => some .latin1
  | 1 => some .utf16
  | 2 => some .utf16Big
  | 3 => some .utf8
  | _ => none

/-- The text of bytes, and its byte order when it has a mark and is not empty. -/
def Encoding.decode (enc : Encoding) (bs : Bytes) : Except Error (List Char × Option Endian) :=
  if bs = [] then .ok ([], none)
  else
    match enc with
    | .latin1 => .ok (Audio.latin1 bs, none)
    | .utf8 =>
      match utf8? bs with
      | some s => .ok (s, none)
      | none => .error (.text .notUtf8)
    | .utf16Big => do return (← Audio.utf16 .big bs, none)
    | .utf16 =>
      match bs with
      | [] | [_] => .error (.text .tooShort)
      | a :: b :: rest =>
        if bs.length % 2 = 1 then .error (.text .oddLength)
        else
          match byteOrder? (a, b) with
          | none => .error (.text .byteOrderMark)
          | some e => do
            let s ← Audio.utf16 e rest
            return (s, if s = [] then none else some e)

/-- How many bytes a character takes at least. -/
def Encoding.unit : Encoding → Nat
  | .latin1 | .utf8 => 1
  | .utf16 | .utf16Big => 2

/-- The bytes before the first zero unit, and what follows it.  Half a unit at the end is left
out. -/
def splitAtZero : (unit : Nat) → Bytes → Bytes × Bytes
  | 1, b :: bs =>
    if b = 0 then ([], bs)
    else
      let (xs, rest) := splitAtZero 1 bs
      (b :: xs, rest)
  | 2, a :: b :: bs =>
    if a = 0 ∧ b = 0 then ([], bs)
    else
      let (xs, rest) := splitAtZero 2 bs
      (a :: b :: xs, rest)
  | _, _ => ([], [])

namespace Reading

/-- The outcome of decoding as a step. -/
def ofExcept {α : Type} : Except Error α → Reading α
  | .ok a => return a
  | .error e => throw e

/-- Takes a text that ends with the source. -/
def text (enc : Encoding) : Reading (List Char × Option Endian) := do
  ofExcept (enc.decode (← rest))

/-- Takes the bytes of a text that ends at the first zero. -/
def bytesToZero (enc : Encoding) : Reading Bytes := do
  let s ← get
  let (xs, rest) := splitAtZero enc.unit s.bytes
  set { s with bytes := rest }
  return xs

/-- Takes a text that ends at the first zero. -/
def textToZero (enc : Encoding) : Reading (List Char × Option Endian) := do
  ofExcept (enc.decode (← bytesToZero enc))

end Reading
end Sidecars.Audio
