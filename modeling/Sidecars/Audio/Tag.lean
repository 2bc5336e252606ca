import Sidecars.Audio.Error
import Sidecars.Metadata
import Sidecars.Path

/-!
# Tags

A recording holds tags of several kinds, and a tag holds items.  Of all items only those that name
the artist, the album or the title matter here.  The tag that counts is that of the kind proper to
the format of the file if there is one, and else the first.
-/

namespace Sidecars.Audio

/-- The formats of recordings. -/
inductive Format where
  /-- MPEG audio of any layer. -/
  | mpeg
  /-- RIFF WAVE. -/
  | wav
  /-- FLAC. -/
  | flac
  /-- MP4. -/
  | mp4
deriving DecidableEq, Repr

/-- The extensions of file names that tell a format. -/
def Format.extensions : Format → List String
  | .mpeg => ["mp3", "mp2", "mp1"]
  | .wav => ["wav", "wave"]
  | .flac => ["flac"]
  | .mp4 => ["mp4", "m4a", "m4b", "m4p", "m4r", "m4v", "3gp"]

/-- All formats. -/
def Format.all : List Format := [.mpeg, .wav, .flac, .mp4]

/-- An ASCII letter in lower case. -/
def lowerByte (b : UInt8) : UInt8 := if 0x41 ≤ b ∧ b ≤ 0x5A then b + 0x20 else b

/-- The format of the file at a path, as the extension tells it in any case of its letters. -/
def Format.ofPath? (p : Path) : Option Format := do
  let extension ← p.extension?
  Format.all.find? fun f => f.extensions.any fun e => Binary.ascii e = extension.map lowerByte

/-- What an item may be about. -/
inductive Subject where
  /-- Who plays. -/
  | artist
  /-- On which album. -/
  | album
  /-- What is played. -/
  | title
deriving DecidableEq, Repr

/-- The kinds of tag. -/
inductive TagKind where
  /-- A tag in front of the sound. -/
  | id3v2
  /-- A tag of fixed size behind the sound. -/
  | id3v1
  /-- A tag of items, in front of the sound or behind it. -/
  | ape
  /-- The list of information of a RIFF file. -/
  | riffInfo
  /-- The comments of a FLAC file. -/
  | vorbisComments
  /-- The list of items of an MP4 file. -/
  | itemList
deriving DecidableEq, Repr

/-- One statement of a tag. -/
structure Item where
  /-- What the item is about. -/
  subject : Subject
  /-- What it says, if that is text. -/
  text : Option String
deriving DecidableEq, Repr

/-- A tag. -/
structure Tag where
  /-- The kind of the tag. -/
  kind : TagKind
  /-- What it says, in order. -/
  items : List Item
deriving DecidableEq, Repr

/-- What a tag says about a subject: the first item about it counts, and only if it is text. -/
def Tag.text? (t : Tag) (s : Subject) : Option String :=
  (t.items.find? (·.subject = s)).bind (·.text)

/-- The kind of tag that is proper to a format. -/
def Format.primaryKind : Format → TagKind
  | .mpeg => .id3v2
  | .wav => .id3v2
  | .flac => .vorbisComments
  | .mp4 => .itemList

/-- The tag that counts: the one proper to the format, or else the first. -/
def countedTag? (format : Format) (tags : List Tag) : Option Tag :=
  (tags.find? (·.kind = format.primaryKind)).or tags.head?

/-- A text in metadata, null for none. -/
def textValue : Option String → Yaml.Value
  | some s => .string s
  | none => .null

/-- The metadata of a recording: what the tag that counts says about the three subjects. -/
def describe (tag : Option Tag) : Metadata :=
  let value (s : Subject) := textValue (tag.bind (·.text? s))
  [(.string "artist", value .artist), (.string "album", value .album),
    (.string "title", value .title)]

end Sidecars.Audio
