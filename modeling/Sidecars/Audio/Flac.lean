import Sidecars.Audio.Id3v2
import Sidecars.Audio.Vorbis

/-!
# FLAC files

Four letters, and blocks of a type, a size and that many bytes, the last of which says so.  The
first block describes the stream; of the blocks of comments the last one counts.  An ID3v2 tag may
stand in front.
-/

namespace Sidecars.Audio.Flac

open Binary

/-- The letters at the start of a FLAC file. -/
def signature : Bytes := ascii "fLaC"

/-- A block. -/
structure Block where
  /-- What the block is for. -/
  kind : Nat
  /-- Whether it is the last one. -/
  last : Bool
  /-- What it holds. -/
  contents : Bytes
deriving DecidableEq, Repr

/-- Takes a block. -/
def readBlock : Reading Block := do
  let b := (← Reading.byte).toNat
  let size ← Reading.bigNumber 3
  return ⟨b % 128, b.testBit 7, ← Reading.take size⟩

/-- The type of the block that describes the stream. -/
def streamKind : Nat := 0

/-- The type of the block of comments. -/
def commentsKind : Nat := 4

/-- The types of the blocks that may be empty: free space and the table of positions. -/
def emptyKinds : List Nat := [1, 3]

/-- How many bytes the description of the stream has at least, as far as its size is checked with
that of its header, and as far as it is read. -/
def minStreamSize : Nat × Nat := (14, 34)

/-- Takes blocks up to the last one; `fuel` is more than their number.  The comments found so far
are those of the last block of comments. -/
def readBlocks : (fuel : Nat) → Option Tag → Reading (Option Tag)
  | 0, comments => return comments
  | fuel + 1, comments => do
    let block ← readBlock
    if block.contents = [] ∧ ¬ emptyKinds.contains block.kind then throw (.flac .emptyBlock)
    let comments ←
      if block.kind = commentsKind then do
        pure (some (← Reading.ofExcept (Vorbis.tagOf block.contents)))
      else pure comments
    if block.last then return comments
    readBlocks fuel comments

/-- Takes the blocks of a file and gives its comments. -/
def readStream : Reading (Option Tag) := do
  if (← Reading.take signature.length) ≠ signature then throw (.flac .marker)
  let stream ← readBlock
  if stream.kind ≠ streamKind then throw (.flac .noStreamInfo)
  if stream.contents.length < minStreamSize.1 then throw (.flac .streamInfoSize)
  let fuel := (← Reading.left).length + 1
  let comments ← if stream.last then pure none else readBlocks fuel none
  if stream.contents.length < minStreamSize.2 then throw (.io .unexpectedEnd)
  return comments

/-- The frames of an ID3v2 tag at the start of a file, and what follows it.  When there is none,
what has been read of it is given back up to the size of a header. -/
def splitTag (file : Bytes) : Except Error (Option (List Id3v2.Frame) × Bytes) :=
  match Id3v2.readHeader.on (.ofBytes file) with
  | (.ok h, left) => do
    let contents ← (Reading.take h.size).result left.bytes
    let frames ← (Id3v2.readBody h).result contents
    let footerSize := if h.footer then Id3v2.headerSize else 0
    return (some frames, left.bytes.drop (h.size + footerSize))
  | (.error _, left) =>
    let position := file.length - left.bytes.length
    if position < Id3v2.headerSize then .error (.io (.os .invalidArgument))
    else .ok (none, file.drop (position - Id3v2.headerSize))

/-- The tags of a FLAC file. -/
def tags (file : Bytes) : Except Error (List Tag) := do
  let (id3v2, stream) ← splitTag file
  let comments ← readStream.result stream
  return comments.toList ++ (id3v2.map Id3v2.tagOf).toList

end Sidecars.Audio.Flac
