import Mathlib.Tactic.Common
import Sidecars.Exif.Container.Webp
import Sidecars.Proofs.Binary

/-!
# The block behind other chunks of a WebP file

A WebP file with a block is written down as its header, chunks that hold no block, the chunk of the
block, and whatever follows.  The header has to count everything up to the end of the block.

* `Webp.blockIn?_chunkStart` reads one chunk and `Webp.blockIn?_chunk` passes over one, padding
  included; what the header has left to count becomes less by as much.
* `Webp.block?_file` comes to the block.
-/

namespace Sidecars.Exif.Webp

open Binary

variable {kind data : Bytes} {room : Nat}

/-- A chunk up to the byte that makes its length even. -/
def chunkStart (kind data : Bytes) : Bytes := kind ++ littleBytes 4 data.length ++ data

/-- A chunk that does not hold the block. -/
structure Chunk where
  /-- The type. -/
  kind : Bytes
  /-- The data. -/
  data : Bytes
  /-- The byte behind data of an odd length. -/
  padding : UInt8
  /-- A type has four bytes. -/
  length_kind : kind.length = 4
  /-- The chunk does not hold the block. -/
  noBlock : kind ≠ ascii "EXIF"

/-- What stands behind the data of a chunk. -/
def Chunk.tail (c : Chunk) : Bytes := if c.data.length % 2 = 1 then [c.padding] else []

/-- The bytes of a chunk. -/
def Chunk.bytes (c : Chunk) : Bytes := chunkStart c.kind c.data ++ c.tail

/-- The header of a file; `size` is what it counts. -/
def header (size : Nat) : Bytes := ascii "RIFF" ++ (littleBytes 4 size ++ ascii "WEBP")

/-- A WebP file with a block. -/
def file (size : Nat) (chunks : List Chunk) (block rest : Bytes) : Bytes :=
  header size ++ (chunks.flatMap Chunk.bytes ++ (chunkStart (ascii "EXIF") block ++ rest))

/-- How many bytes the header of a WebP file has to count at least. -/
def leastSize (chunks : List Chunk) (block : Bytes) : Nat :=
  4 + (chunks.flatMap Chunk.bytes).length + (chunkStart (ascii "EXIF") block).length

lemma length_header (size : Nat) : (header size).length = 12 := by
  rw [header, List.length_append, List.length_append, length_littleBytes]
  decide

lemma slice_header_size (size : Nat) (rest : Bytes) :
    slice (header size ++ rest) 4 4 = littleBytes 4 size := by
  rw [slice, header, List.append_assoc, List.drop_left' (by decide), List.append_assoc,
    List.take_left' (length_littleBytes _ _)]

lemma isWebp_header (size : Nat) (rest : Bytes) : isWebp (header size ++ rest) = true := by
  have hkind : slice (header size ++ rest) 8 4 = ascii "WEBP" := by
    have hstart : (ascii "RIFF" ++ littleBytes 4 size).length = 8 := by
      rw [List.length_append, length_littleBytes]
      decide
    rw [slice, header, ← List.append_assoc, List.append_assoc, List.drop_left' hstart,
      List.take_left' (by decide)]
  have hstart : startsWith (ascii "RIFF") (header size ++ rest) = true := by
    rw [header, List.append_assoc]
    exact startsWith_append _ _
  rw [isWebp, hstart, hkind]
  rfl

lemma length_chunkStart (hkind : kind.length = 4) :
    (chunkStart kind data).length = 8 + data.length := by
  rw [chunkStart, List.length_append, List.length_append, length_littleBytes, hkind]

/-- The type and the size of a chunk for which there is room are read as they were written. -/
lemma blockIn?_chunkStart (hkind : kind.length = 4) (hroom : 8 + data.length ≤ room)
    (hshort : room < 2 ^ 32) (rest : Bytes) :
    blockIn? room (chunkStart kind data ++ rest) =
      if kind = ascii "EXIF" then .ok (some data)
      else if data.length % 2 = 1 ∧ room - 8 - data.length ≠ 0 then
        match rest with
        | [] => .error .brokenWebp
        | _ :: rest => blockIn? (room - 8 - data.length - 1) rest
      else blockIn? (room - 8 - data.length) rest := by
  have hsize : littleNat (littleBytes 4 data.length) = data.length :=
    littleNat_littleBytes (by omega)
  have hheader : (kind ++ littleBytes 4 data.length).length = 8 := by
    rw [List.length_append, length_littleBytes, hkind]
  have hcut : cut? 8 (chunkStart kind data ++ rest) =
      some (kind ++ littleBytes 4 data.length, data ++ rest) := by
    rw [chunkStart, List.append_assoc, cut?_of_length hheader]
  have htake : (kind ++ littleBytes 4 data.length).take 4 = kind := List.take_left' hkind
  have hdrop : (kind ++ littleBytes 4 data.length).drop 4 = littleBytes 4 data.length :=
    List.drop_left' hkind
  -- first the header is cut off, then as many bytes as it says
  rw [blockIn?, if_neg (by omega), if_neg (by omega)]
  split
  · next h => simp [hcut] at h
  · next header body h =>
    obtain ⟨rfl, rfl⟩ : kind ++ littleBytes 4 data.length = header ∧ data ++ rest = body := by
      simpa [hcut] using h
    simp only [htake, hdrop, hsize]
    rw [if_neg (by omega)]
    have hdata : cut? (littleNat ((kind ++ littleBytes 4 data.length).drop 4)) (data ++ rest) =
        some (data, rest) := by
      rw [hdrop, hsize, cut?_append]
    split
    · next h => simp [hdata] at h
    · next data' rest' h =>
      obtain ⟨rfl, rfl⟩ : data = data' ∧ rest = rest' := by simpa [hdata] using h
      split_ifs
      · rfl
      · cases rest <;> rfl
      · rfl

/-- Nothing before the block is taken for it. -/
lemma blockIn?_chunk (c : Chunk) (hroom : c.bytes.length ≤ room) (hshort : room < 2 ^ 32)
    (rest : Bytes) : blockIn? room (c.bytes ++ rest) = blockIn? (room - c.bytes.length) rest := by
  have hlength : (chunkStart c.kind c.data).length = 8 + c.data.length :=
    length_chunkStart c.length_kind
  rw [Chunk.bytes, List.length_append, hlength] at hroom ⊢
  rw [List.append_assoc, blockIn?_chunkStart c.length_kind (by omega) hshort, if_neg c.noBlock]
  by_cases hodd : c.data.length % 2 = 1
  · -- the byte behind the data is counted, so there is room for it
    have htail : c.tail = [c.padding] := if_pos hodd
    rw [htail, List.length_singleton] at hroom ⊢
    have hleft : room - (8 + c.data.length + 1) = room - 8 - c.data.length - 1 := by omega
    rw [if_pos ⟨hodd, by omega⟩, hleft]
    rfl
  · have htail : c.tail = [] := if_neg hodd
    have hleft : room - (8 + c.data.length + 0) = room - 8 - c.data.length := by omega
    rw [htail, if_neg fun h => hodd h.1, List.length_nil, hleft]
    rfl

lemma blockIn?_chunks (chunks : List Chunk)
    (hroom : (chunks.flatMap Chunk.bytes).length ≤ room) (hshort : room < 2 ^ 32) (rest : Bytes) :
    blockIn? room (chunks.flatMap Chunk.bytes ++ rest) =
      blockIn? (room - (chunks.flatMap Chunk.bytes).length) rest := by
  induction chunks generalizing room with
  | nil => rfl
  | cons c chunks ih =>
    rw [List.flatMap_cons, List.length_append] at hroom ⊢
    rw [List.append_assoc, blockIn?_chunk c (by omega) hshort, ih (by omega) (by omega),
      Nat.sub_sub]

/-- The block of a WebP file is found behind all other chunks, if the header counts it. -/
theorem block?_file {size : Nat} {chunks : List Chunk} {block : Bytes}
    (h : leastSize chunks block ≤ size) (hshort : size < 2 ^ 32) (rest : Bytes) :
    block? (file size chunks block rest) = .ok (some block) := by
  have hkind : (ascii "EXIF").length = 4 := by decide
  unfold leastSize at h
  rw [length_chunkStart hkind] at h
  rw [block?]
  simp only [file, slice_header_size, littleNat_littleBytes (show size < 256 ^ 4 by omega),
    List.drop_left' (length_header size)]
  rw [if_neg (by omega), blockIn?_chunks chunks (by omega) (by omega),
    blockIn?_chunkStart hkind (by omega) (by omega), if_pos rfl]

end Sidecars.Exif.Webp
