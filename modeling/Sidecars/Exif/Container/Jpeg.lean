import Sidecars.Binary
import Sidecars.Exif.Error

/-!
# The EXIF block of a JPEG file

A JPEG file is a sequence of markers, each a byte `ff` and a code.  Most codes open a segment with
its length in front.  The block is the rest of the first application segment that starts with
`Exif` and two zero bytes.
-/

namespace Sidecars.Exif.Jpeg

open Binary

/-- The two bytes at the start of every JPEG file. -/
def signature : Bytes := [0xFF, 0xD8]

/-- What stands before the block in its segment. -/
def blockHeader : Bytes := [0x45, 0x78, 0x69, 0x66, 0, 0]

/-- Codes that open no segment. -/
def standsAlone (code : UInt8) : Bool :=
  code = 0x00 || code = 0x01 || (0xD0 ≤ code && code ≤ 0xD7)

/-- The next marker: its code and what follows it.  Bytes before the marker do not count, and a
marker may start with several bytes `ff`. -/
def nextMarker? (bs : Bytes) : Option (UInt8 × Bytes) :=
  match (bs.dropWhile (· ≠ 0xFF)).dropWhile (· = 0xFF) with
  | [] => none
  | code :: rest => some (code, rest)

theorem nextMarker?_length {bs rest : Bytes} {code : UInt8}
    (h : nextMarker? bs = some (code, rest)) : rest.length < bs.length := by
  unfold nextMarker? at h
  split at h
  · simp at h
  · next c r heq =>
    simp only [Option.some.injEq, Prod.mk.injEq] at h
    have h1 : (bs.dropWhile (· ≠ 0xFF)).length ≤ bs.length :=
      (List.dropWhile_sublist _).length_le
    have h2 : ((bs.dropWhile (· ≠ 0xFF)).dropWhile (· = 0xFF)).length
        ≤ (bs.dropWhile (· ≠ 0xFF)).length := (List.dropWhile_sublist _).length_le
    rw [heq] at h2
    simp only [List.length_cons] at h2
    rw [← h.2]
    omega

/-- The block in what follows the start of the image. -/
def blockAfter? (bs : Bytes) : Except Error (Option Bytes) :=
  match _hm : nextMarker? bs with
  | none => .error .brokenJpeg
  | some (code, rest) =>
    if standsAlone code then blockAfter? rest
    else if code = 0xD8 then .error .unexpectedStart
    else if code = 0xD9 then .ok none
    else
      match _hl : cut? 2 rest with
      | none => .error .brokenJpeg
      | some (size, body) =>
        if bigNat size < 2 then .error .segmentLength
        else
          match _hs : cut? (bigNat size - 2) body with
          | none => .error .brokenJpeg
          | some (segment, rest) =>
            if code = 0xE1 ∧ startsWith blockHeader segment then
              .ok (some (segment.drop blockHeader.length))
            else blockAfter? rest
termination_by bs.length
decreasing_by
  · exact nextMarker?_length _hm
  · have := nextMarker?_length _hm
    have := cut?_length _hl
    have := cut?_length _hs
    omega

/-- The block of a JPEG file. -/
def block? (bs : Bytes) : Except Error (Option Bytes) :=
  blockAfter? (bs.drop signature.length)

end Sidecars.Exif.Jpeg
