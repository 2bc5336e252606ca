import Sidecars.Exif.Tag
import Sidecars.Text.Utf8

/-!
# Fields

A field of an EXIF block is a tag with a value.  A value is a list of numbers of one type, a list
of texts, or bytes without a meaning of their own.
-/

namespace Sidecars.Exif

/-- The value of a field. -/
inductive FieldValue where
  /-- Numbers of one byte. -/
  | bytes (xs : List UInt8)
  /-- Texts, of any bytes but zero. -/
  | texts (lines : List Bytes)
  /-- Numbers of two bytes. -/
  | shorts (xs : List UInt16)
  /-- Numbers of four bytes. -/
  | longs (xs : List UInt32)
  /-- Fractions. -/
  | ratios (xs : List (UInt32 × UInt32))
  /-- Numbers of one byte with a sign. -/
  | signedBytes (xs : List Int8)
  /-- Bytes to which the tag gives a meaning. -/
  | undefined (bs : Bytes)
  /-- Numbers of two bytes with a sign. -/
  | signedShorts (xs : List Int16)
  /-- Numbers of four bytes with a sign. -/
  | signedLongs (xs : List Int32)
  /-- Fractions with signs. -/
  | signedRatios (xs : List (Int32 × Int32))
  /-- Floating-point numbers of four bytes, as their bits. -/
  | singles (xs : List UInt32)
  /-- Floating-point numbers of eight bytes, as their bits. -/
  | doubles (xs : List UInt64)
  /-- A value of an unknown type, which is not read: the type, how many of it there are, and where
  the data says so. -/
  | unknown (kind count offset : Nat)
deriving DecidableEq, Repr

/-- The first number of a value of whole numbers. -/
def FieldValue.firstNat? : FieldValue → Option Nat
  | .bytes (x :: _) => some x.toNat
  | .shorts (x :: _) => some x.toNat
  | .longs (x :: _) => some x.toNat
  | _ => none

/-- A field. -/
structure Field where
  /-- What the field says. -/
  tag : Tag
  /-- Which image of the file it is about: zero for the image itself, one for its thumbnail. -/
  image : Nat
  /-- What it says. -/
  value : FieldValue
deriving DecidableEq, Repr

end Sidecars.Exif
