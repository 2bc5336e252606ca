import Sidecars.Audio.Id3v2.Header
import Sidecars.Audio.Text
import Sidecars.Deflate

/-!
# Frames

An ID3v2 tag is a list of frames.  A frame has a name of three or four letters, a size, flags, and
contents, which the flags may say to be compressed or encrypted.  What is read of the contents
depends on the name: texts are kept, and so are texts and links with a description of their own;
other contents only have to be well-formed.
-/

namespace Sidecars.Audio.Id3v2

open Binary

/-- The contents of a frame. -/
inductive FrameValue where
  /-- A text. -/
  | text (s : String)
  /-- A text with a description. -/
  | describedText (description contents : String)
  /-- A link with a description. -/
  | describedLink (description contents : String)
  /-- Bytes. -/
  | raw (bs : Bytes)
  /-- Anything else. -/
  | other
deriving DecidableEq, Repr

/-- A frame. -/
structure Frame where
  /-- The name, in the letters of version 2.4 if it has any. -/
  name : String
  /-- The contents. -/
  value : FrameValue
deriving DecidableEq, Repr

/-! ## Names -/

/-- The names of version 2.2 that are read in a way of their own, and what they became. -/
def oldNames : List (String × String) := [
  ("TP1", "TPE1"), ("TT2", "TIT2"), ("TAL", "TALB"), ("TXX", "TXXX"), ("WXX", "WXXX"),
  ("COM", "COMM"), ("ULT", "USLT"), ("UFI", "UFID"), ("PIC", "APIC"), ("POP", "POPM"),
  ("IPL", "TIPL")]

/-- The name that bytes spell, if they are capital letters and digits. -/
def nameOf? (bs : Bytes) : Option String :=
  if bs.all fun b => (0x41 ≤ b && b ≤ 0x5A) || (0x30 ≤ b && b ≤ 0x39) then
    let name := String.ofList (bs.map fun b => Char.ofNat b.toNat)
    some ((oldNames.lookup name).getD name)
  else none

/-! ## Flags -/

/-- What the flags of a frame say about its contents. -/
structure Flags where
  /-- A byte in front names a group. -/
  grouped : Bool
  /-- The contents are compressed. -/
  compressed : Bool
  /-- A byte in front names a way of encryption. -/
  encrypted : Bool
  /-- Zeros have been put behind bytes `ff`. -/
  unsynchronised : Bool
  /-- A number in front tells the length of the contents. -/
  measured : Bool
deriving DecidableEq, Repr

/-- The flags of a frame that has none. -/
def Flags.none : Flags := ⟨false, false, false, false, false⟩

/-- The flags that the second of their bytes stands for. -/
def Flags.ofNat (version : Version) (n : Nat) : Flags :=
  let v4 := version = .v4
  { grouped := (v4 && n.testBit 6) || n.testBit 5
    compressed := if v4 then n.testBit 3 else n.testBit 7
    encrypted := (v4 && n.testBit 2) || n.testBit 6
    unsynchronised := v4 && n.testBit 1
    measured := v4 && n.testBit 0 }

/-! ## Headers of frames -/

/-- What comes next in a tag. -/
inductive Next where
  /-- Nothing: the tag or its frames end. -/
  | none
  /-- A frame whose name is none. -/
  | nameless (size : Nat)
  /-- A frame. -/
  | frame (name : String) (size : Nat) (flags : Flags)
deriving DecidableEq, Repr

/-- Takes the header of a frame, if there is one. -/
def readFrameHeader (version : Version) : Reading Next := do
  let headerSize := if version = .v2 then 6 else 10
  match cut? headerSize (← Reading.left) with
  | none => do
    let _ ← Reading.skip headerSize
    return .none
  | some (bs, _) => do
    let _ ← Reading.take headerSize
    if bs.head? = some 0 then return .none
    let nameSize := if version = .v2 ∨ (version = .v3 ∧ bs[3]? = some 0) then 3 else 4
    let size :=
      match version with
      | .v2 => bigNat (bs.drop 3)
      | .v3 => bigNat (slice bs 4 4)
      | .v4 => sevenBitNat (slice bs 4 4)
    match nameOf? (bs.take nameSize) with
    | none => return .nameless size
    | some name =>
      let flags := if version = .v2 then Flags.none else .ofNat version (bs.getD 9 0).toNat
      return .frame name size flags

/-! ## Contents -/

/-- Takes the byte that names an encoding, if there is one. -/
def readEncoding? (version : Version) : Reading (Option Encoding) := do
  match ← Reading.byte? with
  | none => return none
  | some b =>
    if version = .v2 ∧ b ≠ 0 ∧ b ≠ 1 then throw (.id3v2 .oldEncoding)
    match Encoding.ofByte? b with
    | some enc => return some enc
    | none => throw (.text .encoding)

/-- Takes a text behind a description in the same encoding.  A byte order mark may stand only
before the description. -/
def readDescribed (enc : Encoding) : Reading (String × String) := do
  let (description, order) ← Reading.textToZero enc
  let contents ←
    match enc, order with
    | .utf16, some e => do
      let bs ← Reading.bytesToZero .utf16
      match bytePairs (bs.take 2) with
      | [p] =>
        match byteOrder? p with
        | some own => Reading.ofExcept (utf16 own (bs.drop 2))
        | none => Reading.ofExcept (utf16 e bs)
      | _ => Reading.ofExcept (utf16 e bs)
    | enc, _ => do pure (← Reading.text enc).1
  return (String.ofList description, String.ofList contents)

/-- Takes the description of a picture. -/
def readPicture (version : Version) : Reading Unit := do
  match Encoding.ofByte? (← Reading.byte) with
  | none => throw .picture
  | some enc => do
    if version = .v2 then
      let format ← Reading.take 3
      if format ≠ ascii "PNG" ∧ format ≠ ascii "JPG" then
        throw (.id3v2 (.pictureFormat (Text.Utf8.decodeLossy format)))
    else
      let _ ← Reading.textToZero .utf8
    let _ ← Reading.byte
    let _ ← Reading.textToZero enc

/-- The names of texts that do not start as those of texts do. -/
def otherTextNames : List String := ["WFED", "GRP1", "MVNM", "MVIN"]

/-- Takes the contents of a frame; none if there is nothing to take. -/
def readValue (version : Version) (name : String) : Reading (Option FrameValue) := do
  match name with
  | "APIC" => do
    readPicture version
    let _ ← Reading.rest
    return some .other
  | "TXXX" => do
    let some enc ← readEncoding? version | return none
    let (description, contents) ← readDescribed enc
    return some (.describedText description contents)
  | "WXXX" => do
    let some enc ← readEncoding? version | return none
    let (description, _) ← Reading.textToZero enc
    let (contents, _) ← Reading.text .latin1
    return some (.describedLink (String.ofList description) (String.ofList contents))
  | "COMM" | "USLT" => do
    let some enc ← readEncoding? version | return none
    let _ ← Reading.take 3
    let _ ← readDescribed enc
    return some .other
  | "POPM" => do
    let _ ← Reading.textToZero .latin1
    let _ ← Reading.byte
    let _ ← Reading.rest
    return some .other
  | "TIPL" | "TMCL" => do
    let some _ ← readEncoding? version | return none
    let _ ← Reading.rest
    return some .other
  | _ =>
    if name.startsWith "T" || otherTextNames.contains name then do
      let some enc ← readEncoding? version | return none
      let (s, _) ← Reading.text enc
      return some (.text (String.ofList s))
    else if name.startsWith "W" then do
      let bs ← Reading.bytesToZero .latin1
      return if bs = [] then none else some .other
    else return some (.raw (← Reading.rest))

/-- The bytes that a compressed frame holds. -/
def decompressed (bs : Bytes) : Source :=
  match Deflate.decompress bs with
  | (out, none) => ⟨out, none⟩
  | (out, some .incomplete) => ⟨out, some .deflateIncomplete⟩
  | (_, some .corrupt) => ⟨[], some .deflateCorrupt⟩

/-- What has come of a frame. -/
inductive FrameResult where
  /-- There was none. -/
  | none
  /-- There is nothing in it; bytes are to be left out. -/
  | skip (size : Nat)
  /-- The frame. -/
  | frame (f : Frame)
deriving DecidableEq, Repr

/-- Takes what the flags announce in front of the contents, and gives the size of the contents and
whether their length has been told. -/
def readPreamble (flags : Flags) (size : Nat) : Reading (Nat × Bool) := do
  let size ← takeByteIf flags.encrypted size
  let size ← takeByteIf flags.grouped size
  if flags.measured || flags.compressed then
    if size < 4 then throw (.id3v2 .frameLength)
    let _ ← Reading.take 4
    if size = 4 then throw (.id3v2 .frameLength)
    return (size - 4, true)
  else
    if size = 0 then throw (.id3v2 .frameLength)
    return (size, false)
where
  /-- Takes one byte of `size` if there is to be one. -/
  takeByteIf (wanted : Bool) (size : Nat) : Reading Nat := do
    if wanted then
      if size = 0 then throw (.id3v2 .frameLength)
      let _ ← Reading.byte
      return size - 1
    else return size

/-- Takes a frame. -/
def readFrame (version : Version) : Reading FrameResult := do
  match ← readFrameHeader version with
  | .none => return .none
  | .nameless size => return .skip size
  | .frame name size flags =>
    if size = 0 then return .skip 0
    let (size, measured) ← readPreamble flags size
    let contents : Reading FrameResult :=
      if flags.encrypted then do
        if !measured then throw (.id3v2 .encryptedLength)
        return .frame ⟨name, .raw (← Reading.take size)⟩
      else do
        match ← readValue version name with
        | some value => return .frame ⟨name, value⟩
        | none => return .skip size
    match flags.unsynchronised, flags.compressed with
    | false, false => Reading.within size contents
    | true, false => Reading.through size (fun bs => .ofBytes (resynchronise bs)) contents
    | false, true => Reading.through size decompressed contents
    | true, true => Reading.through size (fun bs => decompressed (resynchronise bs)) contents

end Sidecars.Audio.Id3v2
