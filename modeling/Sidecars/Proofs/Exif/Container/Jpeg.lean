import Mathlib.Tactic.Common
import Sidecars.Exif.Container.Jpeg
import Sidecars.Proofs.Binary

/-!
# The block behind other segments

A JPEG file with a block is written down as what may stand before the block, the segment of the
block, and whatever follows.  The reading of such a file passes over one part after the other and
comes to the block.

* `Jpeg.Part` is what may stand before the block: segments that hold no block, markers without a
  segment, and bytes outside of segments.
* `Jpeg.blockAfter?_segment` reads one segment and `Jpeg.blockAfter?_part` passes over one part.
* `Jpeg.block?_file` comes to the block.
-/

namespace Sidecars.Exif.Jpeg

open Binary

variable {bs rest data : Bytes} {code : UInt8}

/-- A marker, with some bytes `ff` more than it needs. -/
def marker (fill : Nat) (code : UInt8) : Bytes := List.replicate (fill + 1) 0xFF ++ [code]

/-- A marker with a segment, the length of which covers its own two bytes. -/
def segment (fill : Nat) (code : UInt8) (data : Bytes) : Bytes :=
  marker fill code ++ (bigBytes 2 (data.length + 2) ++ data)

/-- A segment that may stand before the block: its code opens a segment, and it does not hold a
block itself. -/
structure Passed (code : UInt8) (data : Bytes) : Prop where
  /-- The code is one. -/
  notFill : code ≠ 0xFF
  /-- The code opens a segment. -/
  opens : standsAlone code = false
  /-- It is not the start of an image. -/
  notStart : code ≠ 0xD8
  /-- It is not the end of an image. -/
  notEnd : code ≠ 0xD9
  /-- The length of the segment can be written down. -/
  short : data.length ≤ 65533
  /-- It does not hold a block. -/
  noBlock : ¬ (code = 0xE1 ∧ startsWith blockHeader data)

/-- What may stand before the block. -/
inductive Part where
  /-- A byte outside of segments, such as those behind the start of a scan. -/
  | stray (b : UInt8) (h : b ≠ 0xFF)
  /-- A marker without a segment. -/
  | alone (fill : Nat) (code : UInt8) (h : standsAlone code = true)
  /-- A segment. -/
  | passed (fill : Nat) (code : UInt8) (data : Bytes) (h : Passed code data)

/-- The bytes of a part. -/
def Part.bytes : Part → Bytes
  | .stray b _ => [b]
  | .alone fill code _ => marker fill code
  | .passed fill code data _ => segment fill code data

/-- A JPEG file with a block. -/
def file (parts : List Part) (fill : Nat) (block rest : Bytes) : Bytes :=
  signature ++ (parts.flatMap Part.bytes ++ (segment fill 0xE1 (blockHeader ++ block) ++ rest))

lemma nextMarker?_stray {b : UInt8} (h : b ≠ 0xFF) (bs : Bytes) :
    nextMarker? (b :: bs) = nextMarker? bs := by
  unfold nextMarker?
  rw [List.dropWhile_cons_of_pos (by simpa using h)]

lemma nextMarker?_marker (fill : Nat) (h : code ≠ 0xFF) (rest : Bytes) :
    nextMarker? (marker fill code ++ rest) = some (code, rest) := by
  have hmarker : marker fill code ++ rest =
      0xFF :: (List.replicate fill 0xFF ++ code :: rest) := by
    rw [marker, List.replicate_succ, List.append_assoc]
    rfl
  have hfill : (marker fill code ++ rest).dropWhile (· = 0xFF) = code :: rest := by
    have hdrop : (List.replicate (fill + 1) (0xFF : UInt8)).dropWhile (· = 0xFF) = [] := by
      simp
    rw [marker, List.append_assoc, List.singleton_append, List.dropWhile_append, hdrop]
    simp [h]
  unfold nextMarker?
  rw [hmarker, List.dropWhile_cons_of_neg (by decide), ← hmarker, hfill]

lemma blockAfter?_of_none (h : nextMarker? bs = none) : blockAfter? bs = .error .brokenJpeg := by
  rw [blockAfter?]
  split
  · rfl
  · next hm => simp [h] at hm

lemma blockAfter?_of_some (h : nextMarker? bs = some (code, rest)) : blockAfter? bs =
    if standsAlone code then blockAfter? rest
    else if code = 0xD8 then .error .unexpectedStart
    else if code = 0xD9 then .ok none
    else
      match cut? 2 rest with
      | none => .error .brokenJpeg
      | some (size, body) =>
        if bigNat size < 2 then .error .segmentLength
        else
          match cut? (bigNat size - 2) body with
          | none => .error .brokenJpeg
          | some (segment, rest) =>
            if code = 0xE1 ∧ startsWith blockHeader segment then
              .ok (some (segment.drop blockHeader.length))
            else blockAfter? rest := by
  rw [blockAfter?]
  split
  · next hm => simp [h] at hm
  · next code' rest' hm =>
    obtain ⟨rfl, rfl⟩ : code = code' ∧ rest = rest' := by simpa [h] using hm
    split_ifs
    · rfl
    · rfl
    · rfl
    · split
      · next hl => simp only [hl]
      · next hl =>
        simp only [hl]
        split_ifs
        · rfl
        · split
          · next hs => simp only [hs]
          · next hs => simp only [hs]

/-- A segment is read as it was written. -/
lemma blockAfter?_segment (fill : Nat) (hfill : code ≠ 0xFF) (hopens : standsAlone code = false)
    (hstart : code ≠ 0xD8) (hend : code ≠ 0xD9) (hshort : data.length ≤ 65533) (rest : Bytes) :
    blockAfter? (segment fill code data ++ rest) =
      if code = 0xE1 ∧ startsWith blockHeader data then .ok (some (data.drop blockHeader.length))
      else blockAfter? rest := by
  have hsize : bigNat (bigBytes 2 (data.length + 2)) = data.length + 2 :=
    bigNat_bigBytes (by omega)
  have hmarker := nextMarker?_marker fill hfill (bigBytes 2 (data.length + 2) ++ (data ++ rest))
  rw [segment, List.append_assoc, List.append_assoc, blockAfter?_of_some hmarker,
    cut?_of_length (length_bigBytes _ _)]
  simp only [hopens, hstart, hend, hsize, Bool.false_eq_true, if_false]
  rw [if_neg (by omega), Nat.add_sub_cancel, cut?_append]

/-- Nothing before the block is taken for it. -/
lemma blockAfter?_part (part : Part) (rest : Bytes) :
    blockAfter? (part.bytes ++ rest) = blockAfter? rest := by
  cases part with
  | stray b h =>
    change blockAfter? (b :: rest) = blockAfter? rest
    have hnext := nextMarker?_stray h rest
    cases hrest : nextMarker? rest with
    | none => rw [blockAfter?_of_none hrest, blockAfter?_of_none (hnext.trans hrest)]
    | some found =>
      rw [blockAfter?_of_some hrest, blockAfter?_of_some (hnext.trans hrest)]
  | alone fill code h =>
    have hfill : code ≠ 0xFF := by
      rintro rfl
      exact absurd h (by decide)
    rw [Part.bytes, blockAfter?_of_some (nextMarker?_marker fill hfill rest), if_pos h]
  | passed fill code data h =>
    rw [Part.bytes, blockAfter?_segment fill h.notFill h.opens h.notStart h.notEnd h.short,
      if_neg h.noBlock]

lemma blockAfter?_parts (parts : List Part) (rest : Bytes) :
    blockAfter? (parts.flatMap Part.bytes ++ rest) = blockAfter? rest := by
  induction parts with
  | nil => rfl
  | cons part parts ih =>
    rw [List.flatMap_cons, List.append_assoc, blockAfter?_part, ih]

/-- The block of a JPEG file is found behind all other parts. -/
theorem block?_file (parts : List Part) (fill : Nat) {block : Bytes} (h : block.length ≤ 65527)
    (rest : Bytes) : block? (file parts fill block rest) = .ok (some block) := by
  have hlength : (blockHeader ++ block).length ≤ 65533 := by
    rw [List.length_append]
    change 6 + block.length ≤ 65533
    omega
  rw [block?, file, List.drop_left, blockAfter?_parts,
    blockAfter?_segment fill (by decide) (by decide) (by decide) (by decide) hlength,
    if_pos ⟨rfl, startsWith_append _ _⟩, List.drop_left]

end Sidecars.Exif.Jpeg
