import Sidecars.Audio.Ape
import Sidecars.Audio.Id3v1
import Sidecars.Audio.Id3v2
import Sidecars.Audio.Mpeg.FrameHeader

/-!
# MPEG audio files

In front of the sound there may be zeros and any number of ID3v2 and APE tags, and junk that may
itself hold an ID3v2 tag.  Behind the sound there may be an ID3v1 tag and before that an APE tag.
The sound starts at the first frame that is followed by another of its kind.
-/

namespace Sidecars.Audio.Mpeg

open Binary

/-! ## The first frame -/

/-- How many bytes stand before the first eleven set bits. -/
def syncOffset? : Bytes → Option Nat
  | a :: b :: rest =>
    if a = 0xFF ∧ 0xE0 ≤ b then some 0 else (syncOffset? (b :: rest)).map (· + 1)
  | _ => none

/-- A frame and where it starts. -/
structure Located where
  /-- The header of the frame. -/
  header : FrameHeader
  /-- Where the frame starts in the file. -/
  offset : Nat
deriving DecidableEq, Repr

/-- The first frame from a position on that is followed by another of its kind; `fuel` is more than
the number of bytes from there on. -/
def findFrame (file : Bytes) : (fuel : Nat) → (position : Nat) → Except Error (Option Located)
  | 0, _ => .ok none
  | fuel + 1, position =>
    match syncOffset? (file.drop position) with
    | none => .ok none
    | some before =>
      let start := position + before
      let bits := slice file start 4
      if bits.length < 4 then .error (.io .unexpectedEnd)
      else
        match FrameHeader.ofNat? (bigNat bits) with
        | none => findFrame file fuel (start + 4)
        | some header =>
          let next := start + max 4 header.length
          let nextBits := slice file next 4
          if nextBits.length < 4 then .ok none
          else if commonPart (bigNat bits) = commonPart (bigNat nextBits) then
            .ok (some ⟨header, start⟩)
          else findFrame file fuel next

/-! ## What stands in front of the sound -/

/-- What has been found in front of the sound. -/
structure Front where
  /-- The frames of the ID3v2 tags. -/
  id3v2 : Option (List Id3v2.Frame)
  /-- The APE tag. -/
  ape : Option Tag
  /-- The first frame of the sound. -/
  sound : Option Located
deriving Repr

/-- The position of the letters at the start of an ID3v2 tag. -/
def signatureOffset? : Bytes → Option Nat
  | [] => none
  | b :: bs =>
    if startsWith Id3v2.signature (b :: bs) then some 0
    else (signatureOffset? bs).map (· + 1)

/-- How many bytes of junk are searched for a tag. -/
def junkSize : Nat := 1024

/-- The frames of a tag in the junk before the sound. -/
def tagInJunk? (file : Bytes) (soundStart : Nat) : Except Error (Option (List Id3v2.Frame)) :=
  match signatureOffset? (file.take (min soundStart junkSize)) with
  | none => .ok none
  | some offset =>
    match Id3v2.readHeader.on (.ofBytes (file.drop offset)) with
    | (.error _, _) => .ok none
    | (.ok h, left) => do
      let contents ← (Reading.take h.size).result left.bytes
      let frames ← (Id3v2.readBody h).result contents
      return some frames

/-- Reads tags up to the sound; `fuel` is more than the number of bytes. -/
def readFront (file : Bytes) : (fuel : Nat) → Front → Reading Front
  | 0, front => return front
  | fuel + 1, front => do
    let bs ← Reading.left
    if bs.length < 4 then return front
    else if startsWith Id3v2.signature bs then
      let h ← Id3v2.readHeader
      let frames ← Id3v2.readBody h
      match front.id3v2 with
      | some earlier =>
        readFront file fuel { front with id3v2 := some (frames.foldl Id3v2.insertFrame earlier) }
      | none => do
        if h.footer then Reading.skip Id3v2.headerSize
        readFront file fuel { front with id3v2 := some frames }
    else if startsWith (Ape.signature.take 4) bs then
      let signature ← Reading.take 8
      if signature ≠ Ape.signature then throw .notATag
      let tag ← Ape.readLeading file.length
      readFront file fuel { front with ape := some tag }
    else
      match ← Reading.ofExcept (findFrame file (file.length + 1) (file.length - bs.length)) with
      | none => return front
      | some sound => do
        let id3v2 ←
          if front.id3v2.isNone && 0 < sound.offset then
            Reading.ofExcept (tagInJunk? file sound.offset)
          else pure front.id3v2
        return { front with id3v2 := id3v2, sound := some sound }

/-- What stands in front of the sound. -/
def front (file : Bytes) : Except Error Front :=
  let start := file.dropWhile (· = 0)
  if start = [] then .error (.io .unexpectedEnd)
  else (readFront file (file.length + 1) ⟨none, none, none⟩).result start

/-! ## The file -/

/-- How many bytes are looked at for lyrics before an ID3v1 tag, and how many for an APE tag. -/
def lyricsFooterSize : Nat := 15

/-- How many bytes tell whether the sound has a constant bit rate. -/
def rateHeaderSize : Nat := 32

/-- The tags of an MPEG audio file. -/
def tags (file : Bytes) : Except Error (List Tag) := do
  let front ← front file
  let id3v1 := Id3v1.ofFile? file
  let stop := if id3v1.isSome then file.length - Id3v1.size else file.length
  if stop < lyricsFooterSize ∨ stop < Ape.footerSize then throw (.io (.os .invalidArgument))
  let ape ← Ape.ofFooter? file stop
  let some sound := front.sound | throw .noFrame
  let rateHeader := slice file (sound.offset + sound.header.dataStart) rateHeaderSize
  if rateHeader.length < rateHeaderSize then throw (.io .unexpectedEnd)
  return (front.id3v2.map Id3v2.tagOf).toList ++ id3v1.toList ++ (ape.or front.ape).toList

end Sidecars.Audio.Mpeg
