import Mathlib.Tactic.Common
import Sidecars.Exif.Container.Png
import Sidecars.Proofs.Binary

/-!
# The block behind other chunks of a PNG file

A PNG file with a block is written down as chunks that hold no block, the chunk of the block up to
its checksum, and whatever follows.

* `Png.blockIn?_chunkStart` reads one chunk and `Png.blockIn?_chunk` passes over one.
* `Png.block?_file` comes to the block.
-/

namespace Sidecars.Exif.Png

open Binary

variable {kind data : Bytes}

/-- A chunk up to its checksum. -/
def chunkStart (kind data : Bytes) : Bytes := bigBytes 4 data.length ++ kind ++ data

/-- A chunk that does not hold the block. -/
structure Chunk where
  /-- The type. -/
  kind : Bytes
  /-- The data. -/
  data : Bytes
  /-- The checksum, which may be wrong. -/
  checksum : Bytes
  /-- A type has four bytes. -/
  length_kind : kind.length = 4
  /-- The chunk does not hold the block. -/
  noBlock : kind ≠ blockType
  /-- The length of the data can be written down. -/
  short : data.length < 2 ^ 32
  /-- A checksum has four bytes. -/
  length_checksum : checksum.length = 4

/-- The bytes of a chunk. -/
def Chunk.bytes (c : Chunk) : Bytes := chunkStart c.kind c.data ++ c.checksum

/-- A PNG file with a block.  What follows may start with any checksum. -/
def file (chunks : List Chunk) (block rest : Bytes) : Bytes :=
  signature ++ (chunks.flatMap Chunk.bytes ++ (chunkStart blockType block ++ rest))

/-- The type and the length of a chunk are read as they were written. -/
lemma blockIn?_chunkStart (hkind : kind.length = 4) (hdata : data.length < 2 ^ 32) (rest : Bytes) :
    blockIn? (chunkStart kind data ++ rest) =
      if kind = blockType then .ok (some data)
      else
        match cut? (data.length + 4) (data ++ rest) with
        | none => .error .brokenPng
        | some (_, rest) => blockIn? rest := by
  have hsize : bigNat (bigBytes 4 data.length) = data.length :=
    bigNat_bigBytes (by omega)
  have hheader : (bigBytes 4 data.length ++ kind).length = 8 := by
    rw [List.length_append, length_bigBytes, hkind]
  have hne : chunkStart kind data ++ rest ≠ [] := by
    intro hnil
    have hlength := congrArg List.length hnil
    simp [chunkStart] at hlength
  have hcut : cut? 8 (chunkStart kind data ++ rest) =
      some (bigBytes 4 data.length ++ kind, data ++ rest) := by
    rw [chunkStart, List.append_assoc, cut?_of_length hheader]
  have htake : (bigBytes 4 data.length ++ kind).take 4 = bigBytes 4 data.length :=
    List.take_left' (length_bigBytes _ _)
  have hdrop : (bigBytes 4 data.length ++ kind).drop 4 = kind :=
    List.drop_left' (length_bigBytes _ _)
  rw [blockIn?, if_neg hne]
  split
  · next h => simp [hcut] at h
  · next header body h =>
    obtain ⟨rfl, rfl⟩ : bigBytes 4 data.length ++ kind = header ∧ data ++ rest = body := by
      simpa [hcut] using h
    simp only [htake, hdrop, hsize, cut?_append]
    split_ifs
    · rfl
    · split
      · next hbody =>
        rw [htake, hsize] at hbody
        rw [hbody]
      · next hbody =>
        rw [htake, hsize] at hbody
        rw [hbody]

/-- Nothing before the block is taken for it. -/
lemma blockIn?_chunk (c : Chunk) (rest : Bytes) : blockIn? (c.bytes ++ rest) = blockIn? rest := by
  have hcut : cut? (c.data.length + 4) (c.data ++ (c.checksum ++ rest)) =
      some (c.data ++ c.checksum, rest) := by
    rw [← List.append_assoc]
    refine cut?_of_length ?_ rest
    rw [List.length_append, c.length_checksum]
  rw [Chunk.bytes, List.append_assoc, blockIn?_chunkStart c.length_kind c.short, if_neg c.noBlock,
    hcut]

lemma blockIn?_chunks (chunks : List Chunk) (rest : Bytes) :
    blockIn? (chunks.flatMap Chunk.bytes ++ rest) = blockIn? rest := by
  induction chunks with
  | nil => rfl
  | cons c chunks ih =>
    rw [List.flatMap_cons, List.append_assoc, blockIn?_chunk, ih]

/-- The block of a PNG file is found behind all other chunks. -/
theorem block?_file (chunks : List Chunk) {block : Bytes} (h : block.length < 2 ^ 32)
    (rest : Bytes) : block? (file chunks block rest) = .ok (some block) := by
  rw [block?, file, List.drop_left, blockIn?_chunks, blockIn?_chunkStart (by decide) h, if_pos rfl]

end Sidecars.Exif.Png
