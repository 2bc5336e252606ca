import Sidecars.Binary
import Sidecars.Exif.Error
import Sidecars.Exif.Field

/-!
# TIFF data

TIFF data starts with its byte order and the position of a directory.  A directory is a list of
entries, each a tag with a value, and the position of the next directory; entries with certain
tags hold the position of a nested directory, which is read on the spot.  The fields of the
`n`-th directory and of those nested in it are about the `n`-th image.
-/

namespace Sidecars.Exif.Tiff

open Binary

/-! ## Values -/

/-- The pieces of `width` bytes of which `bs` has `count`. -/
def groups (width : Nat) : (count : Nat) → Bytes → List Bytes
  | 0, _ => []
  | count + 1, bs => bs.take width :: groups width count (bs.drop width)

/-- The texts in a value: the pieces between zeros, without an empty one at the end. -/
def splitTexts (bs : Bytes) : List Bytes :=
  let lines := splitAt 0 bs
  if lines.getLast? = some [] then lines.dropLast else lines

/-- How many bytes a number of a type takes; zero for a type that is not known. -/
def unitSize : Nat → Nat
  | 1 | 2 | 6 | 7 => 1
  | 3 | 8 => 2
  | 4 | 9 | 11 => 4
  | 5 | 10 | 12 => 8
  | _ => 0

/-- The value of `count` numbers of a type; `offset` is where the data says so. -/
def readValue (e : Endian) (kind count : Nat) (bs : Bytes) (offset : Nat) : FieldValue :=
  let pieces := groups (unitSize kind) count
  let long (p : Bytes) : UInt32 := UInt32.ofNat (e.nat p)
  match kind with
  | 1 => .bytes bs
  | 2 => .texts (splitTexts bs)
  | 3 => .shorts ((pieces bs).map fun p => UInt16.ofNat (e.nat p))
  | 4 => .longs ((pieces bs).map long)
  | 5 => .ratios ((pieces bs).map fun p => (long (p.take 4), long (p.drop 4)))
  | 6 => .signedBytes (bs.map UInt8.toInt8)
  | 7 => .undefined bs
  | 8 => .signedShorts ((pieces bs).map fun p => (UInt16.ofNat (e.nat p)).toInt16)
  | 9 => .signedLongs ((pieces bs).map fun p => (long p).toInt32)
  | 10 => .signedRatios ((pieces bs).map fun p =>
      ((long (p.take 4)).toInt32, (long (p.drop 4)).toInt32))
  | 11 => .singles ((pieces bs).map long)
  | 12 => .doubles ((pieces bs).map fun p => UInt64.ofNat (e.nat p))
  | _ => .unknown kind count offset

/-! ## Directories -/

/-- The size of an entry. -/
def entrySize : Nat := 12

/-- The tag and the value of the entry that stands at `position`, given the bytes of the entry.  A
value of at most four bytes stands in the entry, a longer one where the entry says. -/
def readEntry (data : Bytes) (e : Endian) (position : Nat) (entry : Bytes) :
    Except Error (Nat × FieldValue) :=
  let tag := e.nat (slice entry 0 2)
  let kind := e.nat (slice entry 2 2)
  let count := e.nat (slice entry 4 4)
  let size := unitSize kind * count
  if size ≤ 4 then
    .ok (tag, readValue e kind count (slice entry 8 size) (position + 8))
  else
    let offset := e.nat (slice entry 8 4)
    let bs := slice data offset size
    if bs.length < size then .error .truncatedValue
    else .ok (tag, readValue e kind count bs offset)

/-- The fields of a directory and of those nested in it, and the position of the next directory.
`depth` bounds the nesting; directories nest at most three deep. -/
def readDirectory (data : Bytes) (e : Endian) (image : Nat) :
    (depth : Nat) → Context → Nat → Except Error (List Field × Nat)
  | 0, _, _ => .ok ([], 0)
  | depth + 1, context, position => do
    let some (countBytes, rest) := cut? 2 (data.drop position) | throw .truncatedCount
    let count := e.nat countBytes
    let some (table, rest) := cut? (entrySize * count) rest | throw .truncatedDirectory
    let entries := (groups entrySize count table).zipIdx
    let fields ← entries.mapM fun (entry, index) => do
      let (number, value) ← readEntry data e (position + 2 + entrySize * index) entry
      match context.child? number with
      | none => return [⟨⟨context, number⟩, image, value⟩]
      | some child =>
        let some pointer := value.firstNat? | throw .pointer
        let (fields, next) ← readDirectory data e image depth child pointer
        if next ≠ 0 then throw .unexpectedNext
        return fields
    let some (next, _) := cut? 4 rest | throw .truncatedNext
    return (fields.flatten, e.nat next)

/-- The most directories that are read one after the other. -/
def maxDirectories : Nat := 8

/-- The fields of a chain of directories; `left` more of them may follow. -/
def readChain (data : Bytes) (e : Endian) : (left : Nat) → Nat → Except Error (List Field)
  | left, position =>
    if position = 0 then .ok []
    else
      match left with
      | 0 => .error .tooManyDirectories
      | left + 1 => do
        let (fields, next) ← readDirectory data e (maxDirectories - 1 - left) 3 .tiff position
        return fields ++ (← readChain data e left next)

/-- The fields of TIFF data. -/
def readFields (data : Bytes) : Except Error (List Field) := do
  let some (header, _) := cut? 8 data | throw .truncatedHeader
  let e : Endian ←
    match bigNat (header.take 2) with
    | 0x4D4D => pure .big
    | 0x4949 => pure .little
    | _ => throw .byteOrder
  if e.nat (slice header 2 2) ≠ 42 then throw .fortyTwo
  readChain data e maxDirectories (e.nat (slice header 4 4))

end Sidecars.Exif.Tiff
