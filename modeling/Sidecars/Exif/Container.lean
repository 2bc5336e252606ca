import Sidecars.Exif.Container.Jpeg
import Sidecars.Exif.Container.Png
import Sidecars.Exif.Container.Heif
import Sidecars.Exif.Container.Webp

/-!
# Image files

The kinds of image file that may hold an EXIF block, told apart by their first bytes, and the
block of each.  The block itself is TIFF data, and a TIFF file is nothing else.
-/

namespace Sidecars.Exif

open Binary

/-- A kind of image file that may hold a block. -/
inductive Container where
  /-- TIFF data and nothing else. -/
  | tiff
  /-- A JPEG file. -/
  | jpeg
  /-- A PNG file. -/
  | png
  /-- A HEIF file. -/
  | heif
  /-- A WebP file. -/
  | webp
deriving DecidableEq, Repr

namespace Container

/-- The first bytes of TIFF data in either byte order. -/
def tiffSignatures : List Bytes := [[0x4D, 0x4D, 0, 0x2A], [0x49, 0x49, 0x2A, 0]]

/-- The first bytes of image files that never hold a block: GIF and BMP. -/
def blocklessSignatures : List Bytes := [ascii "GIF87a", ascii "GIF89a", ascii "BM"]

/-- Whether a file is of a kind that never holds a block. -/
def isBlockless (file : Bytes) : Bool := blocklessSignatures.any (startsWith · file)

/-- How many bytes are looked at to tell the kind of a file. -/
def headSize : Nat := 4096

/-- The kind of a file. -/
def ofFile? (file : Bytes) : Option Container :=
  let head := file.take headSize
  if tiffSignatures.any (startsWith · head) then some .tiff
  else if startsWith Jpeg.signature head then some .jpeg
  else if startsWith Png.signature head then some .png
  else if Heif.isHeif head then some .heif
  else if Webp.isWebp head then some .webp
  else none

/-- The block of a file of a known kind; none if the file holds none. -/
def block? (file : Bytes) : Container → Except Error (Option Bytes)
  | .tiff => .ok (some file)
  | .jpeg => Jpeg.block? file
  | .png => Png.block? file
  | .heif => Heif.block? file
  | .webp => Webp.block? file

end Container

/-- The block of an image file; none if the file holds none. -/
def block? (file : Bytes) : Except Error (Option Bytes) :=
  match Container.ofFile? file with
  | none => .error .unknownFormat
  | some container => container.block? file

end Sidecars.Exif
