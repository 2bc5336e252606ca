import Sidecars.Exif.Field
import Sidecars.Text.Escaped

/-!
# Texts for values that are no list of numbers

Bytes to which only the tag gives a meaning are shown by that meaning where they have it.  The
tags whose numbers stand for something say that such a value is reserved.  Everything else is
shown as hexadecimal digits.
-/

namespace Sidecars.Exif

open Text.Escaped

/-- A byte as two hexadecimal digits. -/
def byteDigits (b : UInt8) : List Char := fixedDigits 16 2 b.toNat

/-- A value as it is, without regard to its tag. -/
def FieldValue.rawText : FieldValue → String
  | .unknown kind count offset =>
    s!"unknown value (type={kind}, count={count}, offset=0x"
      ++ String.ofList (hexDigits offset) ++ ")"
  | .undefined bs => "0x" ++ String.ofList (bs.flatMap byteDigits)
  | _ => ""

/-- The tags whose numbers stand for something, with what they are about. -/
def enumerations : List (Tag × String) := [
  (⟨.tiff, 0x0103⟩, "compression"),
  (⟨.tiff, 0x0106⟩, "photometric interpretation"),
  (⟨.tiff, 0x0112⟩, "orientation"),
  (⟨.tiff, 0x011C⟩, "planar configuration"),
  (⟨.tiff, 0x0128⟩, "resolution unit"),
  (⟨.tiff, 0x0213⟩, "YCbCr positioning"),
  (⟨.exif, 0x8822⟩, "exposure program"),
  (⟨.exif, 0x8830⟩, "sensitivity type"),
  (⟨.exif, 0x9207⟩, "metering mode"),
  (⟨.exif, 0x9208⟩, "light source"),
  (⟨.exif, 0xA001⟩, "color space"),
  (⟨.exif, 0xA210⟩, "resolution unit"),
  (⟨.exif, 0xA217⟩, "sensing method"),
  (⟨.exif, 0xA300⟩, "file source"),
  (⟨.exif, 0xA301⟩, "scene type"),
  (⟨.exif, 0xA401⟩, "custom rendered"),
  (⟨.exif, 0xA402⟩, "exposure mode"),
  (⟨.exif, 0xA403⟩, "white balance mode"),
  (⟨.exif, 0xA406⟩, "scene capture type"),
  (⟨.exif, 0xA407⟩, "gain control"),
  (⟨.exif, 0xA408⟩, "contrast processing"),
  (⟨.exif, 0xA409⟩, "saturation processing"),
  (⟨.exif, 0xA40A⟩, "sharpness processing"),
  (⟨.exif, 0xA40C⟩, "subject distance range"),
  (⟨.exif, 0xA460⟩, "composite image"),
  (⟨.gps, 0x05⟩, "GPS altitude ref"),
  (⟨.gps, 0x09⟩, "GPS status"),
  (⟨.gps, 0x0A⟩, "GPS measurement mode"),
  (⟨.gps, 0x0C⟩, "GPS speed ref"),
  (⟨.gps, 0x0E⟩, "GPS direction ref"),
  (⟨.gps, 0x10⟩, "GPS direction ref"),
  (⟨.gps, 0x17⟩, "GPS direction ref"),
  (⟨.gps, 0x19⟩, "GPS distance ref"),
  (⟨.gps, 0x1E⟩, "GPS differential correction")]

/-- A value without regard to its meaning: as reserved if the tag's numbers stand for something. -/
def plainText (tag : Tag) (value : FieldValue) : String :=
  match enumerations.lookup tag with
  | some name => "[reserved " ++ name ++ " " ++ value.rawText ++ "]"
  | none => value.rawText

/-- The value of a byte that is a decimal digit. -/
def decimalDigit? (b : UInt8) : Option Nat :=
  if 0x30 ≤ b ∧ b ≤ 0x39 then some (b.toNat - 0x30) else none

/-- The two numbers of a version that is written as four digits. -/
def version? (bs : Bytes) : Option (Nat × Nat) :=
  match bs.mapM decimalDigit? with
  | some [a, b, c, d] => some (10 * a + b, 10 * c + d)
  | _ => none

/-- A version with two digits behind the point. -/
def longVersion (major minor : Nat) : String :=
  toString major ++ "." ++ String.ofList (fixedDigits 10 2 minor)

/-- A version with one digit behind the point if that is enough. -/
def shortVersion (major minor : Nat) : String :=
  if minor % 10 = 0 then toString major ++ "." ++ toString (minor / 10)
  else longVersion major minor

/-- The component of a colour that a number stands for. -/
def componentWord (b : UInt8) : String :=
  match b.toNat with
  | 0 => "_"
  | 1 => "Y"
  | 2 => "Cb"
  | 3 => "Cr"
  | 4 => "R"
  | 5 => "G"
  | 6 => "B"
  | _ => "?"

/-- The source that a number stands for. -/
def sourceWord? (b : UInt8) : Option String :=
  match b.toNat with
  | 0 => some "others"
  | 1 => some "transparency scanner"
  | 2 => some "reflective scanner"
  | 3 => some "digital still camera"
  | _ => none

/-- Bytes between double quotes: what is not visible ASCII by its number. -/
def quotedAscii (bs : Bytes) : String :=
  let shown (b : UInt8) : List Char :=
    if b = 0x5C ∨ b = 0x22 then ['\\', Char.ofNat b.toNat]
    else if 0x20 ≤ b ∧ b ≤ 0x7E then [Char.ofNat b.toNat]
    else ['\\', 'x'] ++ byteDigits b
  "\"" ++ String.ofList (bs.flatMap shown) ++ "\""

/-- What bytes mean to a tag, if they mean anything. -/
def meaning? (tag : Tag) (bs : Bytes) : Option String :=
  match tag.context, tag.number with
  | .exif, 0x9000 | .exif, 0xA000 => (version? bs).map fun (major, minor) => shortVersion major minor
  | .exif, 0x9101 => some (String.join (bs.map componentWord))
  | .exif, 0xA300 => bs.head?.bind sourceWord?
  | .exif, 0xA301 => if bs.head? = some 1 then some "directly photographed image" else none
  | .gps, 0x1B => some (quotedAscii bs)
  | .interop, 0x0002 => (version? bs).map fun (major, minor) => longVersion major minor
  | _, _ => none

/-- The text for a value that is no list of numbers. -/
def shownText (tag : Tag) (value : FieldValue) : String :=
  match value with
  | .undefined bs => (meaning? tag bs).getD (plainText tag value)
  | value => plainText tag value

end Sidecars.Exif
