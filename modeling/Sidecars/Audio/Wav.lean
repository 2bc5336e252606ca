import Sidecars.Audio.Id3v2

/-!
# WAV files

A WAV file is a RIFF file of kind `WAVE`: chunks of a type, a size and that many bytes, padded to
an even number.  One chunk describes the format and one holds the sound.  Tags are chunks that hold
an ID3v2 tag, and lists of information, which are made of chunks themselves.
-/

namespace Sidecars.Audio.Wav

open Binary

/-! ## Chunks -/

/-- What the chunks of a file have told so far. -/
structure Contents where
  /-- The description of the format; empty when there is none. -/
  format : Bytes
  /-- The size of the sound; zero when there is none. -/
  dataSize : Nat
  /-- The number of samples; zero when it is not told. -/
  samples : Nat
  /-- The items of the lists of information, each a key and a text. -/
  info : List (String × String)
  /-- The frames of the ID3v2 tags. -/
  id3v2 : Option (List Id3v2.Frame)
  /-- How many bytes of the file may still be contents of chunks. -/
  room : Nat
deriving Repr

/-- Leaves out a chunk of a size, with its padding. -/
def skipChunk (size : Nat) : Reading Unit := Reading.skip (size + size % 2)

/-- How many bytes of the file a chunk takes. -/
def Contents.without (c : Contents) (size : Nat) : Contents := { c with room := c.room - size }

/-- Takes the contents of a chunk. -/
def takeChunk (room size : Nat) : Reading Bytes := do
  if room < size then throw .sizeMismatch
  Reading.take size

/-- Whether a key is made of capital letters and digits. -/
def isKey (key : List Char) : Bool :=
  key.length = 4 && key.all fun c => ('A' ≤ c && c ≤ 'Z') || ('0' ≤ c && c ≤ '9')

/-- The text of an item: UTF-8, without the zeros around it. -/
def itemText? (bs : Bytes) : Option String :=
  (utf8? bs).map fun s => String.ofList (s.dropWhile (· = '\u0000'))

/-- Takes the items of a list of information of which `size` bytes are left; `fuel` is more than
their number.  A list that does not end where its size says goes on to the end of the file. -/
def readInfo : (fuel : Nat) → (size : Int) → Contents → Reading Contents
  | 0, _, c => return c
  | fuel + 1, size, c => do
    if size = 0 then return c
    let bs ← Reading.left
    match cut? 8 bs with
    | none => do
      Reading.skip 8
      return c
    | some (header, _) => do
      Reading.skip 8
      let some key := Text.Utf8.decodeChars? (header.take 4) | throw (.wav .keyNotUtf8)
      if !isKey key then throw (.wav .keyCharacters)
      let valueSize := littleNat (header.drop 4)
      let c := c.without 8
      let value := (← Reading.left).take valueSize
      if c.room < valueSize ∨ value.length < valueSize then throw (.wav .value)
      skipChunk valueSize
      let some text := itemText? value | throw (.wav .value)
      let padded : Nat := valueSize + valueSize % 2
      readInfo fuel (size - 8 - Int.ofNat padded)
        { c.without padded with info := c.info ++ [(String.ofList key, text)] }

/-- Takes the contents of a chunk of the given type and size. -/
def readChunk (kind : Bytes) (size : Nat) (c : Contents) : Reading Contents := do
  if kind = ascii "fmt " ∧ c.format = [] then
    let format ← takeChunk c.room size
    return { c.without size with format := format }
  else if kind = ascii "fact" then
    let samples ← if c.samples = 0 then Reading.littleNumber 4 else do
      Reading.skip 4
      pure c.samples
    return { c with samples := samples }
  else if kind = ascii "data" then
    skipChunk size
    return { c.without (size + size % 2) with dataSize := if c.dataSize = 0 then size else c.dataSize }
  else if kind = ascii "LIST" then
    let inner ← Reading.take 4
    if inner = ascii "INFO" then
      let size := (size + 0x100000000 - 4) % 0x100000000
      readInfo ((← Reading.left).length + 1) (Int.ofNat size) c
    else
      Reading.skip (size + size % 2 - 4)
      return c.without (size + size % 2)
  else if kind = ascii "ID3 " ∨ kind = ascii "id3 " then
    let bs ← takeChunk c.room size
    let (h, frames) ← Reading.ofExcept <| Reading.result (do
      let h ← Id3v2.readHeader
      return (h, ← Id3v2.readBody h)) bs
    if h.footer then Reading.skip Id3v2.headerSize
    Reading.skip (size % 2)
    let frames := match c.id3v2 with
      | some earlier => frames.foldl Id3v2.insertFrame earlier
      | none => frames
    return { c.without (size + size % 2) with id3v2 := some frames }
  else
    skipChunk size
    return c.without (size + size % 2)

/-- Takes chunks up to the end of the file; `fuel` is more than their number. -/
def readChunks : (fuel : Nat) → Contents → Reading Contents
  | 0, c => return c
  | fuel + 1, c => do
    match cut? 8 (← Reading.left) with
    | none => return c
    | some (header, _) => do
      Reading.skip 8
      readChunks fuel (← readChunk (header.take 4) (littleNat (header.drop 4)) (c.without 8))

/-! ## The format of the sound -/

/-- The format whose number stands further behind. -/
def extensibleFormat : Nat := 0xFFFE

/-- The formats without compression: whole numbers and floating-point numbers. -/
def plainFormats : List Nat := [1, 3]

/-- Checks the description of the format and that there is sound.  Of the number of channels only
the low byte counts. -/
def checkFormat (c : Contents) : Except Error Unit := do
  if c.format.length < 16 then throw (.wav .noFormat)
  if c.dataSize = 0 then throw (.wav .noData)
  if littleNat (slice c.format 2 1) = 0 then throw (.wav .noChannels)
  let format := littleNat (slice c.format 0 2)
  if format = extensibleFormat ∧ c.format.length < 40 then throw (.wav .extensibleSize)
  let format := if format = extensibleFormat then littleNat (slice c.format 24 2) else format
  if ¬ plainFormats.contains format ∧ c.samples = 0 then throw (.wav .noFact)

/-! ## The file -/

/-- The keys of the items about the subjects. -/
def subjectKeys : List (String × Subject) :=
  [("IART", .artist), ("IPRD", .album), ("INAM", .title)]

/-- The tag that the items of lists of information make. -/
def infoTag (info : List (String × String)) : Tag :=
  ⟨.riffInfo, info.filterMap fun (key, s) => (subjectKeys.lookup key).map fun t => ⟨t, some s⟩⟩

/-- Reads a WAV file. -/
def readFile (size : Nat) : Reading Contents := do
  if (← Reading.take 4) ≠ ascii "RIFF" then throw (.wav .notRiff)
  let _ ← Reading.take 4
  if (← Reading.take 4) ≠ ascii "WAVE" then throw (.wav .notWave)
  readChunks (size + 1) ⟨[], 0, 0, [], none, size⟩

/-- The tags of a WAV file. -/
def tags (file : Bytes) : Except Error (List Tag) := do
  let c ← (readFile file.length).result file
  checkFormat c
  return (c.id3v2.map Id3v2.tagOf).toList ++ (if c.info = [] then [] else [infoTag c.info])

end Sidecars.Audio.Wav
