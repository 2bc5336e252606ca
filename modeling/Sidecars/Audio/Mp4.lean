import Sidecars.Audio.Mp4.ItemList

/-!
# MP4 files

The first atom tells the type of the file.  The movie atom holds the tracks, one of which has to be
sound, and the user data, in which the list of items is.
-/

namespace Sidecars.Audio.Mp4

open Binary

/-! ## The movie -/

/-- What has been found in the movie atom. -/
structure Movie where
  /-- The media of the tracks. -/
  media : List Atom
  /-- The list of items; that of the last user data counts. -/
  items : Option Tag
deriving Repr

/-- Checks the atom of the file type. -/
def readFileType : Atoms Unit := do
  match ← nextAtom with
  | none => throw .unknownFormat
  | some atom => do
    if atom.kind ≠ ascii "ftyp" then throw .unknownFormat
    if atom.size < 12 then throw (.mp4 .shortFileType)
    let brand ← Atoms.take 4
    Atoms.move (atom.size - 12)
    if (utf8? brand).isNone then throw (.atom .brand)

/-- Finds the movie atom; `fuel` is more than the number of atoms. -/
def findMovie : (fuel : Nat) → Atoms Atom
  | 0 => throw (.mp4 .noMovie)
  | fuel + 1 => do
    match ← Atoms.quietly nextAtom with
    | none => throw (.mp4 .noMovie)
    | some atom => do
      if atom.kind = ascii "moov" then return atom
      skipAtom atom
      findMovie fuel

/-- Finds an atom of a kind among those that follow, while less than `size` bytes have been read;
`fuel` is more than their number. -/
def findWithin (kind : Bytes) : (fuel : Nat) → (read size : Nat) → Atoms (Option Atom)
  | 0, _, _ => return none
  | fuel + 1, read, size => do
    if size ≤ read then return none
    match ← nextAtom with
    | none => return none
    | some atom => do
      if atom.kind = kind then return some atom
      skipAtom atom
      findWithin kind fuel (read + atom.size) size

/-- The kinds of the atoms that may come first in the metadata atom. -/
def metadataKinds : List Bytes :=
  [ascii "hdlr", ascii "ilst", ascii "mhdr", ascii "ctry", ascii "lang"]

/-- Leaves out the version of the metadata atom, which may be missing, and gives its size. -/
def skipVersion : Atoms Nat := do
  let p ← Atoms.position
  let _ ← Atoms.take 4
  let kind ← Atoms.take 4
  let size := if metadataKinds.contains kind then 0 else 4
  Atoms.goTo (p + size)
  return size

/-- Takes the list of items of the user data, of which there are `size` bytes. -/
def readUserData (fuel size : Nat) : Atoms (Option Tag) := do
  let some metadata ← findWithin (ascii "meta") fuel 0 size | return none
  let version ← skipVersion
  let some list ← findWithin (ascii "ilst") fuel (headerSize + version) metadata.size | return none
  let contents ← Atoms.take (list.size - headerSize)
  match tagOf contents with
  | .ok tag => return some tag
  | .error e => throw e

/-- Reads the atoms of the movie; `fuel` is more than their number. -/
def readMovie : (fuel : Nat) → Movie → Atoms Movie
  | 0, movie => return movie
  | fuel + 1, movie => do
    match ← Atoms.quietly nextAtom with
    | none => return movie
    | some atom => do
      if atom.kind = ascii "trak" then
        match ← findAtom (ascii "mdia") (atom.size + 1) atom.size with
        | some media => do
          skipAtom media
          readMovie fuel { movie with media := movie.media ++ [media] }
        | none => readMovie fuel movie
      else if atom.kind = ascii "udta" then
        let items ← readUserData (atom.size + 1) (atom.size - headerSize)
        readMovie fuel { movie with items := items }
      else
        skipAtom atom
        readMovie fuel movie

/-! ## The sound -/

/-- What has been found in the media of the tracks. -/
structure Sound where
  /-- Whether one of them is sound. -/
  found : Bool
  /-- The header of the media. -/
  header : Option Atom
  /-- The information on the media. -/
  information : Option Atom
deriving Repr

/-- Reads the atoms of the media of a track, of which `left` bytes are left; `fuel` is more than
their number. -/
def readMedia : (fuel : Nat) → (left : Nat) → Sound → Atoms Sound
  | 0, _, sound => return sound
  | fuel + 1, left, sound => do
    if left = 0 then return sound
    match ← nextAtom with
    | none => return sound
    | some atom => do
      let sound ←
        if atom.kind = ascii "mdhd" then do
          skipAtom atom
          pure { sound with header := some atom }
        else if atom.kind = ascii "minf" then do
          skipAtom atom
          pure { sound with information := some atom }
        else if atom.kind = ascii "hdlr" then do
          Atoms.move 8
          let handler ← Atoms.take 4
          Atoms.move (Int.ofNat ((atom.size + 0x100000000 - 12) % 0x100000000) - headerSize)
          pure { sound with found := sound.found || handler = ascii "soun" }
        else do
          skipAtom atom
          pure sound
      readMedia fuel (left - atom.size) sound

/-- Reads the media of the tracks up to the first that is sound. -/
def findSound : List Atom → Sound → Atoms Sound
  | [], sound => return sound
  | media :: more, sound => do
    if sound.found then return sound
    Atoms.goTo (media.start + headerSize)
    findSound more (← readMedia (media.size + 1) (media.size - headerSize) sound)

/-- How long the sound is, in thousandths of a second, as the header of the media says. -/
def readDuration (header : Atom) : Atoms Nat := do
  Atoms.goTo (header.start + headerSize)
  let version ← Atoms.freeNumber 1
  let _ ← Atoms.freeNumber 3
  let width := if version = 1 then 8 else 4
  let _ ← Atoms.freeNumber width
  let _ ← Atoms.freeNumber width
  let scale ← Atoms.freeNumber 4
  let duration ← Atoms.freeNumber width
  return if scale = 0 then 0 else duration * 1000 / scale

/-- Takes the tag of a descriptor and its size. -/
def readDescriptor : Atoms Nat := do
  let tag ← Atoms.freeNumber 1
  skipSize 4
  return tag
where
  /-- Takes the bytes of a size, of which all but the last have their highest bit set. -/
  skipSize : Nat → Atoms Unit
    | 0 => return
    | n + 1 => do
      if 128 ≤ (← Atoms.freeNumber 1) then skipSize n

/-- The bit rate, in thousands of bits in a second, that the description of AAC sound tells; zero if
it does not. -/
def readAacBitRate : Atoms Nat := do
  Atoms.move 16
  let _ ← Atoms.freeNumber 2
  Atoms.move 4
  let _ ← Atoms.freeNumber 4
  Atoms.move 2
  match ← Atoms.quietly nextAtom with
  | none => return 0
  | some atom => do
    if atom.kind ≠ ascii "esds" then return 0
    if (← Atoms.freeNumber 4) ≠ 0 then return 0
    if (← readDescriptor) ≠ 3 then return 0
    Atoms.move 3
    if (← readDescriptor) ≠ 4 then return 0
    Atoms.move 9
    let bitRate ← Atoms.freeNumber 4
    if (← readDescriptor) = 5 then
      let _ ← Atoms.freeNumber 2
    return bitRate / 1000

/-- The same for lossless sound, whose description holds another atom of the same kind. -/
def readLosslessBitRate : Atoms Nat := do
  Atoms.goTo 44
  match ← Atoms.quietly nextAtom with
  | none => return 0
  | some atom => do
    if atom.kind ≠ ascii "alac" then return 0
    Atoms.move 9
    let _ ← Atoms.freeNumber 1
    Atoms.move 3
    let _ ← Atoms.freeNumber 1
    Atoms.move 6
    let bitRate ← Atoms.freeNumber 4
    let _ ← Atoms.freeNumber 4
    return bitRate / 1000

/-- Takes the first description of a sample and gives its bit rate. -/
def readSampleEntry : Atoms Nat := do
  Atoms.move 8
  match ← nextAtom with
  | none => throw (.atom .noSampleEntry)
  | some atom =>
    if atom.kind = ascii "mp4a" then readAacBitRate
    else if atom.kind = ascii "alac" then readLosslessBitRate
    else return 0

/-- Checks the sound of a movie: when its length is told and its bit rate is not, the atom of the
sound itself has to be there. -/
def checkSound (media : List Atom) : Atoms Unit := do
  let file ← read
  Atoms.bound file.length
  let sound ← findSound media ⟨false, none, none⟩
  if !sound.found then throw (.mp4 .noAudio)
  let some header := sound.header | throw (.atom .noMediaHeader)
  let duration ← readDuration header
  let some information := sound.information | return
  Atoms.goTo (information.start + headerSize)
  let some table ← findAtom (ascii "stbl") (information.size + 1) information.size | return
  let some entries ← findAtom (ascii "stsd") (table.size + 1) table.size | return
  let contents ← Atoms.take (entries.size - headerSize)
  match readSampleEntry.result contents with
  | .error e => throw e
  | .ok bitRate => do
    if 0 < duration ∧ bitRate = 0 then
      Atoms.goTo 0
      match ← findAtom (ascii "mdat") (file.length + 1) file.length with
      | some _ => return
      | none => throw (.mp4 .noData)

/-! ## The file -/

/-- Reads an MP4 file and gives its list of items. -/
def readFile : Atoms (Option Tag) := do
  let file ← read
  readFileType
  let movie ← findMovie (file.length + 1)
  Atoms.bound (movie.start + movie.size)
  let movie ← readMovie (movie.size + 1) ⟨[], none⟩
  checkSound movie.media
  return movie.items

/-- The tags of an MP4 file. -/
def tags (file : Bytes) : Except Error (List Tag) := do
  return (← readFile.result file).toList

end Sidecars.Audio.Mp4
