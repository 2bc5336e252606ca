import Sidecars.Audio.Tag
import Sidecars.Audio.Text

/-!
# Vorbis comments

The name of the program that wrote the file, and a list of comments of the form `KEY=value`, each
behind its length.  Keys are told apart without regard to case.  A comment without `=`, with a key
of other characters or with a value that is not UTF-8 does not count.
-/

namespace Sidecars.Audio.Vorbis

open Binary

/-- The keys of the comments about the subjects. -/
def subjectKeys : List (String × Subject) :=
  [("artist", .artist), ("album", .album), ("title", .title)]

/-- Whether a byte may stand in a key. -/
def isKeyByte (b : UInt8) : Bool := 0x20 ≤ b && b ≤ 0x7D

/-- The item that a comment makes. -/
def item? (comment : Bytes) : Option Item := do
  let key := comment.takeWhile (· ≠ 0x3D)
  let value ← (comment.drop key.length).tail?
  if !key.all isKeyByte then none
  let subject ← (subjectKeys.find? fun p => ascii p.1 = key.map lowerByte).map (·.2)
  let text ← utf8? value
  return ⟨subject, some (String.ofList text)⟩

/-- Takes `count` comments; `room` is how many bytes they may have. -/
def readComments : (count : Nat) → (room : Nat) → Reading (List Bytes)
  | 0, _ => return []
  | count + 1, room => do
    let size ← Reading.littleNumber 4
    if room < size then throw .sizeMismatch
    let comment ← Reading.take size
    return comment :: (← readComments count (room - size))

/-- Takes the comments of a block of the given size. -/
def readBlock (size : Nat) : Reading Tag := do
  let vendorSize ← Reading.littleNumber 4
  if size < vendorSize then throw .sizeMismatch
  let _ ← Reading.take vendorSize
  let room := size - vendorSize
  let count ← Reading.littleNumber 4
  if room / 4 < count then throw .sizeMismatch
  let comments ← readComments count room
  return ⟨.vorbisComments, comments.filterMap item?⟩

/-- The tag that a block of comments holds. -/
def tagOf (block : Bytes) : Except Error Tag := (readBlock block.length).result block

end Sidecars.Audio.Vorbis
