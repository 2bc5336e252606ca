import Sidecars.Binary
import Sidecars.Exif.Error

/-!
# The EXIF block of a PNG file

After its signature a PNG file is a sequence of chunks: a length, a type, the data and a checksum.
The block is the data of the first chunk of type `eXIf`.  Checksums are not verified.
-/

namespace Sidecars.Exif.Png

open Binary

/-- The bytes at the start of every PNG file. -/
def signature : Bytes := [0x89, 0x50, 0x4E, 0x47, 0x0D, 0x0A, 0x1A, 0x0A]

/-- The type of the chunk that holds the block. -/
def blockType : Bytes := [0x65, 0x58, 0x49, 0x66]

/-- The block in a sequence of chunks. -/
def blockIn? (bs : Bytes) : Except Error (Option Bytes) :=
  if bs = [] then .ok none
  else
    match _hh : cut? 8 bs with
    | none => .error .brokenPng
    | some (header, rest) =>
      let size := bigNat (header.take 4)
      if header.drop 4 = blockType then
        match cut? size rest with
        | none => .error .brokenPng
        | some (block, _) => .ok (some block)
      else
        match _hd : cut? (size + 4) rest with
        | none => .error .brokenPng
        | some (_, rest) => blockIn? rest
termination_by bs.length
decreasing_by
  have := cut?_length _hh
  have := cut?_length _hd
  omega

/-- The block of a PNG file. -/
def block? (bs : Bytes) : Except Error (Option Bytes) :=
  blockIn? (bs.drop signature.length)

end Sidecars.Exif.Png
