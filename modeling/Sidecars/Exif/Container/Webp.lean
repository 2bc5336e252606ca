import Sidecars.Binary
import Sidecars.Exif.Error

/-!
# The EXIF block of a WebP file

A WebP file is a RIFF file: a header with the size of what follows, and chunks of a type, a size
and that many bytes, padded to an even number.  The block is the data of the first chunk of type
`EXIF`.  A chunk may not leave the file as its header measures it.
-/

namespace Sidecars.Exif.Webp

open Binary

/-- Whether bytes start as a WebP file does. -/
def isWebp (bs : Bytes) : Bool :=
  startsWith (ascii "RIFF") bs && (slice bs 8 4) = ascii "WEBP"

/-- The block in a sequence of chunks of which the header counts `room` bytes. -/
def blockIn? (room : Nat) (bs : Bytes) : Except Error (Option Bytes) :=
  if room = 0 then .ok none
  else if room < 8 then .error .chunkOverflow
  else
    match _hh : cut? 8 bs with
    | none => .error .brokenWebp
    | some (header, rest) =>
      let size := littleNat (header.drop 4)
      if room - 8 < size then .error .chunkOverflow
      else
        match _hd : cut? size rest with
        | none => .error .brokenWebp
        | some (data, rest) =>
          if header.take 4 = ascii "EXIF" then .ok (some data)
          else if size % 2 = 1 ∧ room - 8 - size ≠ 0 then
            match rest with
            | [] => .error .brokenWebp
            | _ :: rest => blockIn? (room - 8 - size - 1) rest
          else blockIn? (room - 8 - size) rest
termination_by room

/-- The block of a WebP file. -/
def block? (bs : Bytes) : Except Error (Option Bytes) :=
  let size := littleNat (slice bs 4 4)
  if size < 4 then .error .webpSize else blockIn? (size - 4) (bs.drop 12)

end Sidecars.Exif.Webp
