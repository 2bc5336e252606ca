import Sidecars.Binary

/-!
# Frames of MPEG audio

Sound of MPEG audio is a sequence of frames, each with a header of 32 bits: eleven set bits, the
version, the layer, and numbers for the bit rate and the sample rate, from which the length of the
frame follows.
-/

namespace Sidecars.Audio.Mpeg

/-- The versions of MPEG audio. -/
inductive Version where
  /-- MPEG-1. -/
  | one
  /-- MPEG-2. -/
  | two
  /-- The extension of MPEG-2 to low sample rates. -/
  | twoAndHalf
deriving DecidableEq, Repr

/-- The layers of MPEG audio. -/
inductive Layer where
  /-- Layer I. -/
  | one
  /-- Layer II. -/
  | two
  /-- Layer III. -/
  | three
deriving DecidableEq, Repr

/-- The header of a frame. -/
structure FrameHeader where
  /-- The length of the frame with its header. -/
  length : Nat
  /-- Where the sound starts in the frame. -/
  dataStart : Nat
deriving DecidableEq, Repr

/-- The bit rates, in thousands of bits in a second, by their numbers; zero for none. -/
def bitRates : Version → Layer → List Nat
  | .one, .one => [0, 32, 64, 96, 128, 160, 192, 224, 256, 288, 320, 352, 384, 416, 448, 0]
  | .one, .two => [0, 32, 48, 56, 64, 80, 96, 112, 128, 160, 192, 224, 256, 320, 384, 0]
  | .one, .three => [0, 32, 40, 48, 56, 64, 80, 96, 112, 128, 160, 192, 224, 256, 320, 0]
  | _, .one => [0, 32, 48, 56, 64, 80, 96, 112, 128, 144, 160, 176, 192, 224, 256, 0]
  | _, _ => [0, 8, 16, 24, 32, 40, 48, 56, 64, 80, 96, 112, 128, 144, 160, 0]

/-- The sample rates by their numbers. -/
def sampleRates : Version → List Nat
  | .one => [44100, 48000, 32000]
  | .two => [22050, 24000, 16000]
  | .twoAndHalf => [11025, 12000, 8000]

/-- How many samples a frame holds. -/
def samples : Version → Layer → Nat
  | _, .one => 384
  | _, .two => 1152
  | .one, .three => 1152
  | _, .three => 576

/-- How many bytes a padded frame has more. -/
def padding : Layer → Nat
  | .one => 4
  | _ => 1

/-- How many bytes stand between the header and the sound; `mono` is for a single channel. -/
def sideInformation (version : Version) (mono : Bool) : Nat :=
  match version, mono with
  | .one, false => 32
  | .one, true => 17
  | _, false => 17
  | _, true => 9

/-- The version that two bits stand for. -/
def Version.ofBits? : Nat → Option Version
  | 0 => some .twoAndHalf
  | 2 => some .two
  | 3 => some .one
  | _ => none

/-- The layer that two bits stand for. -/
def Layer.ofBits? : Nat → Option Layer
  | 1 => some .three
  | 2 => some .two
  | 3 => some .one
  | _ => none

/-- The header that 32 bits stand for. -/
def FrameHeader.ofNat? (n : Nat) : Option FrameHeader := do
  let version ← Version.ofBits? (n >>> 19 % 4)
  let layer ← Layer.ofBits? (n >>> 17 % 4)
  let bitRate := (bitRates version layer).getD (n >>> 12 % 16) 0
  if bitRate = 0 then none
  let sampleRate ← (sampleRates version)[n >>> 10 % 4]?
  let padded := if n.testBit 9 then padding layer else 0
  return {
    length := samples version layer * bitRate * 125 / sampleRate + padded
    dataStart := sideInformation version (n >>> 6 % 4 = 3) + 4 }

/-- What two headers of the same sound have in common: the set bits, the version, the layer and
the sample rate. -/
def commonPart (n : Nat) : Nat := n &&& 0xFFFE0C00

end Sidecars.Audio.Mpeg
