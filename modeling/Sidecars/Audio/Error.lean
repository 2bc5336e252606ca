import Sidecars.FileSystem.Errno
import Sidecars.Text.Utf8

/-!
# Errors of reading an audio tag

Everything that can be wrong with a recording or with the tag in it, and the wording of each
fault.  A recording without a tag is not an error.
-/

namespace Sidecars.Audio

/-- What is wrong with a text. -/
inductive TextFault where
  /-- An encoding that is none of the known ones. -/
  | encoding
  /-- UTF-8 text that is not UTF-8. -/
  | notUtf8
  /-- UTF-16 text without room for its byte order mark. -/
  | tooShort
  /-- UTF-16 text with half a unit at the end. -/
  | oddLength
  /-- UTF-16 text that starts with no byte order mark. -/
  | byteOrderMark
  /-- UTF-16 text with half a surrogate pair. -/
  | notUtf16
deriving DecidableEq, Repr

/-- The wording of a fault of text. -/
def TextFault.message : TextFault → String
  | .encoding => "Found invalid encoding"
  | .notUtf8 => "Expected a UTF-8 string"
  | .tooShort => "UTF-16 string has an invalid length (< 2)"
  | .oddLength => "UTF-16 string has an odd length"
  | .byteOrderMark => "UTF-16 string has an invalid byte order mark"
  | .notUtf16 => "Given an invalid UTF-16 string"

/-- What is wrong with an ID3v2 tag. -/
inductive Id3v2Fault where
  /-- A version that is none of the known ones. -/
  | version (major minor : Nat)
  /-- A compressed tag of version 2.2. -/
  | compressed
  /-- An extended header that is too small or larger than the tag. -/
  | extendedHeaderSize
  /-- A frame without room for what its flags announce. -/
  | frameLength
  /-- An encrypted frame that does not say how long its contents are. -/
  | encryptedLength
  /-- An encoding that version 2.2 does not have. -/
  | oldEncoding
  /-- A picture of an unknown format. -/
  | pictureFormat (format : String)
deriving DecidableEq, Repr

/-- The wording of a fault of an ID3v2 tag. -/
def Id3v2Fault.message : Id3v2Fault → String
  | .version major minor =>
    s!"Found an invalid version (v{major}.{minor}), expected any major revision in: (2, 3, 4)"
  | .compressed => "Encountered a compressed ID3v2.2 tag"
  | .extendedHeaderSize => "Found an extended header with an invalid size"
  | .frameLength => "Frame isn't long enough to extract the necessary information"
  | .encryptedLength => "Encountered an encrypted frame without a data length indicator"
  | .oldEncoding => "ID3v2.2 only supports Latin-1 and UTF-16 encodings"
  | .pictureFormat format => "Picture: Found unexpected format \"" ++ format ++ "\""

/-- What is wrong with an APE tag. -/
inductive ApeFault where
  /-- A tag that does not even cover its footer. -/
  | size
  /-- A key that is not UTF-8. -/
  | keyNotUtf8
  /-- A key that no item may have. -/
  | illegalKey
  /-- A key with characters that no key may have. -/
  | keyCharacters
  /-- A text that is not UTF-8. -/
  | textNotUtf8
  /-- A locator that is not UTF-8. -/
  | locatorNotUtf8
  /-- An item of an unknown type. -/
  | itemType
deriving DecidableEq, Repr

/-- The wording of a fault of an APE tag. -/
def ApeFault.message : ApeFault → String
  | .size => "APE tag has an invalid size (< 32)"
  | .keyNotUtf8 => "APE tag item contains a non UTF-8 key"
  | .illegalKey => "APE tag item contains an illegal key"
  | .keyCharacters => "APE tag item key contains invalid characters"
  | .textNotUtf8 => "Failed to convert text item into a UTF-8 string"
  | .locatorNotUtf8 => "Failed to convert locator item into a UTF-8 string"
  | .itemType => "APE tag item contains an invalid item type"

/-- What is wrong with a WAV file. -/
inductive WavFault where
  /-- The file is no RIFF file. -/
  | notRiff
  /-- The file is a RIFF file of another kind. -/
  | notWave
  /-- There is no description of the format, or one that is too short. -/
  | noFormat
  /-- There is no sound. -/
  | noData
  /-- The sound has no channel. -/
  | noChannels
  /-- The format is extended, and its description is too short for that. -/
  | extensibleSize
  /-- The sound is compressed, and its length is not told. -/
  | noFact
  /-- A key of the list of information that is not UTF-8. -/
  | keyNotUtf8
  /-- A key with characters that no key may have. -/
  | keyCharacters
  /-- A value that is not UTF-8 or leaves the file. -/
  | value
deriving DecidableEq, Repr

/-- The wording of a fault of a WAV file. -/
def WavFault.message : WavFault → String
  | .notRiff => "WAV file doesn't contain a RIFF chunk"
  | .notWave => "Found RIFF file, format is not WAVE"
  | .noFormat => "File does not contain a valid \"fmt \" chunk"
  | .noData => "File does not contain a \"data\" chunk"
  | .noChannels => "File contains 0 channels"
  | .extensibleSize => "Extensible format identified, invalid \"fmt \" chunk size found (< 40)"
  | .noFact => "Non-PCM format identified, no \"fact\" chunk found"
  | .keyNotUtf8 => "Non UTF-8 item key found in RIFF INFO"
  | .keyCharacters => "RIFF INFO item key contains invalid characters"
  | .value => "Failed to read the chunk value"

/-- What is wrong with a FLAC file. -/
inductive FlacFault where
  /-- The file does not start as FLAC does. -/
  | marker
  /-- The first block is not that of the stream. -/
  | noStreamInfo
  /-- The block of the stream is too short. -/
  | streamInfoSize
  /-- A block without contents. -/
  | emptyBlock
deriving DecidableEq, Repr

/-- The wording of a fault of a FLAC file. -/
def FlacFault.message : FlacFault → String
  | .marker => "File missing \"fLaC\" stream marker"
  | .noStreamInfo => "File missing mandatory STREAMINFO block"
  | .streamInfoSize => "File has an invalid STREAMINFO block size (< 18)"
  | .emptyBlock => "Encountered a zero-sized metadata block"

/-- What is wrong with an MP4 file. -/
inductive Mp4Fault where
  /-- The file type atom has no room for a brand. -/
  | shortFileType
  /-- There is no movie atom. -/
  | noMovie
  /-- There is no track of sound. -/
  | noAudio
  /-- There is no sound. -/
  | noData
deriving DecidableEq, Repr

/-- The wording of a fault of an MP4 file. -/
def Mp4Fault.message : Mp4Fault → String
  | .shortFileType => "\"ftyp\" atom too short"
  | .noMovie => "No \"moov\" atom found"
  | .noAudio => "File contains no audio tracks"
  | .noData => "Failed to find \"mdat\" atom"

/-- What is wrong with an atom. -/
inductive AtomFault where
  /-- The brand is not UTF-8. -/
  | brand
  /-- The track has no header. -/
  | noMediaHeader
  /-- The size does not even cover the header. -/
  | length
  /-- The description of the samples is empty. -/
  | noSampleEntry
deriving DecidableEq, Repr

/-- The wording of a fault of an atom. -/
def AtomFault.message : AtomFault → String
  | .brand => "Unable to parse \"ftyp\"'s major brand"
  | .noMediaHeader => "Expected atom \"trak.mdia.mdhd\""
  | .length => "Found an invalid length (< 8)"
  | .noSampleEntry => "Expected sample entry atom in \x60stsd\x60 atom"

/-- What is wrong with a recording. -/
inductive Error where
  /-- The name of the file does not tell its format. -/
  | unknownFormat
  /-- The file cannot be read, or ends too soon. -/
  | io (e : IoError)
  /-- Something is larger than what it stands in. -/
  | sizeMismatch
  /-- What starts as a tag is none. -/
  | notATag
  /-- A picture whose description cannot be read. -/
  | picture
  /-- Compressed data that ends too soon. -/
  | deflateIncomplete
  /-- Compressed data that is damaged. -/
  | deflateCorrupt
  /-- A wrong text. -/
  | text (fault : TextFault)
  /-- A wrong ID3v2 tag. -/
  | id3v2 (fault : Id3v2Fault)
  /-- A wrong APE tag. -/
  | ape (fault : ApeFault)
  /-- An MPEG file without a frame of sound. -/
  | noFrame
  /-- A wrong WAV file. -/
  | wav (fault : WavFault)
  /-- A wrong FLAC file. -/
  | flac (fault : FlacFault)
  /-- A wrong MP4 file. -/
  | mp4 (fault : Mp4Fault)
  /-- A wrong atom of an MP4 file. -/
  | atom (fault : AtomFault)
deriving DecidableEq, Repr

/-- The wording of a fault. -/
def Error.message : Error → String
  | .unknownFormat => "No format could be determined from the provided file"
  | .io e => e.message
  | .sizeMismatch => "Encountered an invalid item size, either too big or too small to be valid"
  | .notATag => "Reading: Expected a tag, found invalid data"
  | .picture => "Picture: Encountered invalid data"
  | .deflateIncomplete => "incomplete deflate stream"
  | .deflateCorrupt => "corrupt deflate stream"
  | .text fault => "Text decoding: " ++ fault.message
  | .id3v2 fault => "ID3v2: " ++ fault.message
  | .ape fault => "Ape: " ++ fault.message
  | .noFrame => "Mpeg: File contains an invalid frame"
  | .wav fault => "Wav: " ++ fault.message
  | .flac fault => "Flac: " ++ fault.message
  | .mp4 fault => "Mp4: " ++ fault.message
  | .atom fault => "MP4 Atom: " ++ fault.message

end Sidecars.Audio
