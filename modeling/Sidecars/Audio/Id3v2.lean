import Sidecars.Audio.Id3v2.Frame
import Sidecars.Audio.Tag

/-!
# ID3v2 tags

Frames are gathered into a list in which a frame takes the place of an earlier one of the same
kind.  The items of a tag are its texts, several in one text being separated by zeros.  A text or a
link with a description counts under its description.
-/

namespace Sidecars.Audio.Id3v2

/-! ## Gathering -/

/-- Whether a frame takes the place of an earlier one: texts by their names, texts and links with a
description by that too, anything else if it is the same. -/
def replaces (earlier f : Frame) : Bool :=
  earlier.name = f.name &&
    match earlier.value, f.value with
    | .text _, _ => true
    | .describedText d _, .describedText e _ => d = e
    | .describedLink d _, .describedLink e _ => d = e
    | .raw xs, .raw ys => xs = ys
    | _, _ => false

/-- Whether the contents of a frame are empty. -/
def Frame.isEmpty (f : Frame) : Bool :=
  match f.value with
  | .text s => s = ""
  | .describedText _ s | .describedLink _ s => s = ""
  | .raw bs => bs = []
  | .other => false

/-- Removes the first frame that another one replaces. -/
def removeReplaced (f : Frame) : List Frame → Option Frame × List Frame
  | [] => (none, [])
  | g :: gs =>
    if replaces g f then (some g, gs)
    else
      let (replaced, gs) := removeReplaced f gs
      (replaced, g :: gs)

/-- Adds a frame in the place of what it replaces. -/
def insertFrame (frames : List Frame) (f : Frame) : List Frame :=
  (removeReplaced f frames).2 ++ [f]

/-- Adds a frame that was read, but does not let an empty one replace one that is not. -/
def gatherFrame (frames : List Frame) (f : Frame) : List Frame :=
  match removeReplaced f frames with
  | (some g, rest) =>
    if f.isEmpty && !g.isEmpty then insertFrame (rest ++ [f]) g else rest ++ [f]
  | (none, rest) => rest ++ [f]

/-- Takes frames up to the end, after those gathered so far; `fuel` is more than their number. -/
def readFrames (version : Version) : (fuel : Nat) → List Frame → Reading (List Frame)
  | 0, frames => return frames
  | fuel + 1, frames => do
    match ← readFrame version with
    | .none => return frames
    | .skip size => do
      Reading.skipExactly size
      readFrames version fuel frames
    | .frame f => readFrames version fuel (gatherFrame frames f)

/-- The frames of the tag behind a header, in the bytes that follow it, and what is behind the
tag. -/
def readBody (h : Header) : Reading (List Frame) := do
  let size := h.size - h.extendedSize
  let bs := (← Reading.left).take size
  let _ ← Reading.skip size
  let bs := if h.unsynchronised then resynchronise bs else bs
  Reading.ofExcept ((readFrames h.version (bs.length + 1) []).result bs)

/-! ## Items -/

/-- The names of the frames that say something about the subjects. -/
def subjectNames : List (String × Subject) :=
  [("TPE1", .artist), ("TALB", .album), ("TIT2", .title)]

/-- The subject of a name, in any case of its letters. -/
def subjectOf? (name : String) : Option Subject :=
  subjectNames.lookup (String.ofList (name.toList.map Char.toUpper))

/-- The pieces between zeros. -/
def splitZeros : List Char → List (List Char)
  | [] => [[]]
  | c :: cs =>
    if c = '\u0000' then [] :: splitZeros cs
    else
      match splitZeros cs with
      | piece :: pieces => (c :: piece) :: pieces
      | [] => [[c]]

/-- The items about a subject that a text holds. -/
def textItems (subject : Subject) (s : String) : List Item :=
  (splitZeros s.toList).map fun piece => ⟨subject, some (String.ofList piece)⟩

/-- The items about a subject that a link holds. -/
def linkItems (subject : Subject) (s : String) : List Item :=
  (splitZeros s.toList).map fun _ => ⟨subject, none⟩

/-- The items that a frame holds. -/
def Frame.items (f : Frame) : List Item :=
  match f.value with
  | .describedText description contents =>
    ((subjectOf? description).map fun s => textItems s contents).getD []
  | .describedLink description contents =>
    ((subjectOf? description).map fun s => linkItems s contents).getD []
  | .text s => ((subjectOf? f.name).map fun subject => textItems subject s).getD []
  | .raw _ | .other => ((subjectOf? f.name).map fun s => [⟨s, none⟩]).getD []

/-- The tag that frames make. -/
def tagOf (frames : List Frame) : Tag := ⟨.id3v2, frames.flatMap Frame.items⟩

end Sidecars.Audio.Id3v2
