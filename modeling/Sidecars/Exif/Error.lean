import Sidecars.FileSystem.Errno

/-!
# Errors of reading an EXIF block

Everything that can be wrong with an image file or with the block in it, and the wording of each
fault.  An image without a block is not an error.
-/

namespace Sidecars.Exif

/-- What is wrong with an image file. -/
inductive Error where
  /-- The first bytes belong to no known kind of image. -/
  | unknownFormat
  /-- The file cannot be read where its contents point to. -/
  | io (e : IoError)
  /-- A JPEG file ends too soon. -/
  | brokenJpeg
  /-- A second start of image. -/
  | unexpectedStart
  /-- The length of a JPEG segment does not even cover itself. -/
  | segmentLength
  /-- A PNG file ends too soon. -/
  | brokenPng
  /-- A WebP file ends too soon. -/
  | brokenWebp
  /-- The size in the header does not even cover the header. -/
  | webpSize
  /-- A chunk does not fit into the file. -/
  | chunkOverflow
  /-- A HEIF file ends too soon. -/
  | brokenHeif
  /-- A box has no room for what it has to hold. -/
  | boxTooSmall
  /-- The size of a box does not even cover its header. -/
  | boxSize
  /-- A box is too large to be skipped. -/
  | boxTooLarge
  /-- The file type box names no kind of HEIF. -/
  | noBrand
  /-- The metadata box comes before the file type box. -/
  | earlyMeta
  /-- A metadata box of an unknown version. -/
  | metaVersion
  /-- An item description of an unknown version. -/
  | itemInfoVersion
  /-- There is no box of item locations. -/
  | noLocations
  /-- A box of item locations of an unknown version. -/
  | locationVersion
  /-- The item is not in the box of item locations. -/
  | itemNotLocated
  /-- The item is in another file. -/
  | externalData
  /-- A width of the named number that is neither 0 nor 4 nor 8. -/
  | numberWidth (name : String)
  /-- The item is part of another item. -/
  | itemInItem
  /-- The item is in an unknown place. -/
  | constructionMethod
  /-- A position beyond all numbers. -/
  | offsetOverflow
  /-- A length beyond all numbers. -/
  | lengthOverflow
  /-- There is no box of item data. -/
  | noItemData
  /-- The item leaves the box of item data. -/
  | outOfItemData
  /-- The item is larger than any block. -/
  | tooLarge
  /-- The item has no room for the position of the block. -/
  | dataBlockTooSmall
  /-- The block starts behind the item. -/
  | headerOffset
  /-- The TIFF data is too short for its header. -/
  | truncatedHeader
  /-- The TIFF data does not say its byte order. -/
  | byteOrder
  /-- The number that every TIFF header holds is missing. -/
  | fortyTwo
  /-- More directories than are read. -/
  | tooManyDirectories
  /-- The data ends before the number of entries of a directory. -/
  | truncatedCount
  /-- The data ends before the last entry of a directory. -/
  | truncatedDirectory
  /-- The data ends before the position of the next directory. -/
  | truncatedNext
  /-- The data ends before the end of a value. -/
  | truncatedValue
  /-- The position of a nested directory is no number. -/
  | pointer
  /-- A nested directory has a next one. -/
  | unexpectedNext
deriving DecidableEq, Repr

/-- The wording of a fault. -/
def Error.message : Error → String
  | .unknownFormat => "Unknown image format"
  | .io e => e.message
  | .brokenJpeg => "Broken JPEG file"
  | .unexpectedStart => "Unexpected SOI"
  | .segmentLength => "Invalid segment length"
  | .brokenPng => "Broken PNG file"
  | .brokenWebp => "Broken WebP file"
  | .webpSize => "Invalid header file size"
  | .chunkOverflow => "Chunk overflowing parent"
  | .brokenHeif => "Broken HEIF file"
  | .boxTooSmall => "Box too small"
  | .boxSize => "Invalid box size"
  | .boxTooLarge => "Large seek not supported"
  | .noBrand => "No compatible brand recognized in ISO base media file"
  | .earlyMeta => "MetaBox found before FileTypeBox"
  | .metaVersion => "Unsupported MetaBox"
  | .itemInfoVersion => "Unsupported ItemInfoEntry"
  | .noLocations => "No ItemLocationBox"
  | .locationVersion => "Unsupported ItemLocationBox"
  | .itemNotLocated => "No matching item in ItemLocationBox"
  | .externalData => "External data reference is not supported"
  | .numberWidth name => "Invalid " ++ name
  | .itemInItem => "Construction by item offset is not supported"
  | .constructionMethod => "Invalid construction_method"
  | .offsetOverflow => "Invalid offset"
  | .lengthOverflow => "Invalid length"
  | .noItemData => "No ItemDataBox"
  | .outOfItemData => "Out of ItemDataBox"
  | .tooLarge => "Exif data too large"
  | .dataBlockTooSmall => "ExifDataBlock too small"
  | .headerOffset => "Invalid Exif header offset"
  | .truncatedHeader => "Truncated TIFF header"
  | .byteOrder => "Invalid TIFF byte order"
  | .fortyTwo => "Invalid forty two"
  | .tooManyDirectories => "Limit the IFD count to 8"
  | .truncatedCount => "Truncated IFD count"
  | .truncatedDirectory => "Truncated IFD"
  | .truncatedNext => "Truncated next IFD offset"
  | .truncatedValue => "Truncated field value"
  | .pointer => "Invalid pointer"
  | .unexpectedNext => "Unexpected next IFD"

end Sidecars.Exif
