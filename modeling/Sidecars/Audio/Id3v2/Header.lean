import Sidecars.Audio.Reading

/-!
# The header of an ID3v2 tag

Ten bytes: three letters, the version, flags, and the size of what follows.  An extended header
may stand behind it; of that only its size matters.
-/

namespace Sidecars.Audio.Id3v2

open Binary

/-- The versions of ID3v2. -/
inductive Version where
  /-- Version 2.2, with names of three letters. -/
  | v2
  /-- Version 2.3. -/
  | v3
  /-- Version 2.4, with sizes of seven bits in every byte. -/
  | v4
deriving DecidableEq, Repr

/-- The header of a tag. -/
structure Header where
  /-- The version of the tag. -/
  version : Version
  /-- Whether zeros have been put behind bytes `ff` in the whole tag. -/
  unsynchronised : Bool
  /-- Whether the header is repeated behind the tag. -/
  footer : Bool
  /-- The size of the tag without the header. -/
  size : Nat
  /-- The part of the size that the extended header takes. -/
  extendedSize : Nat
deriving DecidableEq, Repr

/-- The letters at the start of a tag. -/
def signature : Bytes := [0x49, 0x44, 0x33]

/-- The number that four bytes of seven bits make. -/
def sevenBitNat : Bytes → Nat
  | [a, b, c, d] =>
    d.toNat ||| (c.toNat <<< 7) ||| (b.toNat <<< 14) ||| (a.toNat <<< 21)
  | _ => 0

/-- Takes the extended header and gives its size. -/
def readExtendedHeader : Reading Nat := do
  let size := sevenBitNat (← Reading.take 4)
  if size < 6 then throw (.id3v2 .extendedHeaderSize)
  let _ ← Reading.byte
  let flags := (← Reading.byte).toNat
  if flags.testBit 5 then
    let _ ← Reading.take 6
  if flags.testBit 4 then
    let _ ← Reading.take 2
  return size

/-- Takes a header. -/
def readHeader : Reading Header := do
  let bs ← Reading.take 10
  if bs.take 3 ≠ signature then throw .notATag
  let major := (bs.getD 3 0).toNat
  let version : Version ←
    match major with
    | 2 => pure .v2
    | 3 => pure .v3
    | 4 => pure .v4
    | _ => throw (.id3v2 (.version major (bs.getD 4 0).toNat))
  let flags := (bs.getD 5 0).toNat
  if version = .v2 && flags.testBit 6 then throw (.id3v2 .compressed)
  let size := sevenBitNat (bs.drop 6)
  let extendedSize ← if version ≠ .v2 && flags.testBit 6 then readExtendedHeader else pure 0
  if 0 < extendedSize ∧ size ≤ extendedSize then throw (.id3v2 .extendedHeaderSize)
  return {
    version := version
    unsynchronised := flags.testBit 7
    footer := version = .v4 && flags.testBit 4
    size := size
    extendedSize := extendedSize }

/-- The size of a header, and of its repetition. -/
def headerSize : Nat := 10

/-- Bytes without the zeros that have been put behind bytes `ff`. -/
def resynchronise : Bytes → Bytes
  | 0xFF :: 0 :: bs => 0xFF :: resynchronise bs
  | b :: bs => b :: resynchronise bs
  | [] => []

end Sidecars.Audio.Id3v2
