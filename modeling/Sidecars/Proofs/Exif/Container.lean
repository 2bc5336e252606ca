import Sidecars.Dispatch
import Sidecars.Proofs.Exif.Container.Jpeg
import Sidecars.Proofs.Exif.Container.Png
import Sidecars.Proofs.Exif.Container.Webp

/-!
# One block in four kinds of file

A block of TIFF data may be a file of its own, or stand in a JPEG, PNG or WebP file behind other
segments or chunks.  The kind of a file is known from its first bytes, and none of these kinds is
taken for another one.

* `Container.Holds` is a file of one of the four kinds with a block, and
  `Container.block?_of_holds` the reading of the block from it.
* `imageExtractor_of_holds`: what is found in such a file is known from the block alone.
-/

namespace Sidecars.Exif

open Binary

/-! ## The kinds of file -/

namespace Heif

/-- The first four bytes of a WebP file are the size of no box that fits into what is looked at. -/
lemma isHeif_riff {more : Bytes} (h : more.length ≤ Container.headSize) :
    isHeif (ascii "RIFF" ++ more) = false := by
  have hsize : takeNat 4 (ascii "RIFF" ++ more) = .ok (0x52494646, more) := by
    rw [takeNat, takeBytes, cut?_of_length (by decide)]
    rfl
  have hbox : takeBox (ascii "RIFF" ++ more) = .error .boxTooSmall := by
    rw [takeBox, hsize]
    cases hkind : cut? 4 more with
    | none => simp [takeBytes, hkind, Bind.bind, Except.bind]
    | some found =>
      have hlength := cut?_length hkind
      have hnone : cut? (0x52494646 - 8) found.2 = none :=
        cut?_eq_none (by unfold Container.headSize at h; omega)
      simp [takeBytes, hkind, hnone, Bind.bind, Except.bind, pure, Except.pure]
  rw [isHeif, isHeifFrom, hbox]

end Heif

namespace Container

variable {file block : Bytes}

lemma take_headSize (start rest : Bytes) (h : start.length ≤ headSize) :
    ∃ more, (start ++ rest).take headSize = start ++ more := by
  refine ⟨rest.take (headSize - start.length), ?_⟩
  rw [List.take_append, List.take_of_length_le h]

lemma ofFile?_tiff (h : tiffSignatures.any (startsWith · block) = true) :
    ofFile? block = some .tiff := by
  obtain ⟨signature, hmem, hstart⟩ := List.any_eq_true.1 h
  obtain ⟨rest, rfl⟩ := startsWith_iff.1 hstart
  have hlength : signature.length ≤ headSize := by
    have hall : ∀ s ∈ tiffSignatures, s.length ≤ headSize := by decide
    exact hall signature hmem
  obtain ⟨more, hmore⟩ := take_headSize signature rest hlength
  have hhead : tiffSignatures.any (startsWith · (signature ++ more)) = true :=
    List.any_eq_true.2 ⟨signature, hmem, startsWith_append _ _⟩
  simp only [ofFile?, hmore, hhead, if_true]

lemma ofFile?_jpeg (rest : Bytes) : ofFile? (Jpeg.signature ++ rest) = some .jpeg := by
  obtain ⟨more, hmore⟩ := take_headSize Jpeg.signature rest (by decide)
  have htiff : tiffSignatures.any (startsWith · (Jpeg.signature ++ more)) = false := rfl
  simp only [ofFile?, hmore, htiff, startsWith_append, Bool.false_eq_true, if_false, if_true]

lemma ofFile?_png (rest : Bytes) : ofFile? (Png.signature ++ rest) = some .png := by
  obtain ⟨more, hmore⟩ := take_headSize Png.signature rest (by decide)
  have htiff : tiffSignatures.any (startsWith · (Png.signature ++ more)) = false := rfl
  have hjpeg : startsWith Jpeg.signature (Png.signature ++ more) = false := rfl
  simp only [ofFile?, hmore, htiff, hjpeg, startsWith_append, Bool.false_eq_true, if_false, if_true]

lemma ofFile?_webp (size : Nat) (rest : Bytes) :
    ofFile? (Webp.header size ++ rest) = some .webp := by
  obtain ⟨more, hmore⟩ := take_headSize (Webp.header size) rest (by
    rw [Webp.length_header]
    decide)
  have hlength : (Webp.header size ++ more).length ≤ headSize := by
    rw [← hmore]
    exact List.length_take_le _ _
  have hriff : Webp.header size ++ more =
      ascii "RIFF" ++ (littleBytes 4 size ++ (ascii "WEBP" ++ more)) := by
    rw [Webp.header, List.append_assoc, List.append_assoc]
  have hheif : Heif.isHeif (Webp.header size ++ more) = false := by
    rw [hriff] at hlength ⊢
    rw [List.length_append] at hlength
    exact Heif.isHeif_riff (by omega)
  have htiff : tiffSignatures.any (startsWith · (Webp.header size ++ more)) = false := rfl
  have hjpeg : startsWith Jpeg.signature (Webp.header size ++ more) = false := rfl
  have hpng : startsWith Png.signature (Webp.header size ++ more) = false := rfl
  simp only [ofFile?, hmore, htiff, hjpeg, hpng, hheif, Webp.isWebp_header, Bool.false_eq_true,
    if_false, if_true]

/-- A file of one of the four kinds in which a block stands behind everything else. -/
inductive Holds (block : Bytes) : Bytes → Prop where
  /-- The block itself. -/
  | tiff : Holds block block
  /-- A JPEG file. -/
  | jpeg (parts : List Jpeg.Part) (fill : Nat) (rest : Bytes) (h : block.length ≤ 65527) :
      Holds block (Jpeg.file parts fill block rest)
  /-- A PNG file. -/
  | png (chunks : List Png.Chunk) (rest : Bytes) (h : block.length < 2 ^ 32) :
      Holds block (Png.file chunks block rest)
  /-- A WebP file. -/
  | webp (size : Nat) (chunks : List Webp.Chunk) (rest : Bytes)
      (h : Webp.leastSize chunks block ≤ size) (hshort : size < 2 ^ 32) :
      Holds block (Webp.file size chunks block rest)

/-- The reading of an image file comes to the block in it. -/
theorem block?_of_holds (hblock : tiffSignatures.any (startsWith · block) = true)
    (h : Holds block file) : Exif.block? file = .ok (some block) := by
  cases h with
  | tiff =>
    rw [Exif.block?, ofFile?_tiff hblock]
    rfl
  | jpeg parts fill rest hlength =>
    rw [Exif.block?, Jpeg.file, ofFile?_jpeg]
    exact Jpeg.block?_file parts fill hlength rest
  | png chunks rest hlength =>
    rw [Exif.block?, Png.file, ofFile?_png]
    exact Png.block?_file chunks hlength rest
  | webp size chunks rest hsize hshort =>
    rw [Exif.block?, Webp.file, ofFile?_webp]
    exact Webp.block?_file hsize hshort rest

/-- No file with a block is of a kind that never has one. -/
lemma isBlockless_of_holds (hblock : tiffSignatures.any (startsWith · block) = true)
    (h : Holds block file) : isBlockless file = false := by
  cases h with
  | tiff =>
    obtain ⟨signature, hmem, hstart⟩ := List.any_eq_true.1 hblock
    obtain ⟨rest, rfl⟩ := startsWith_iff.1 hstart
    simp only [tiffSignatures, List.mem_cons, List.not_mem_nil, or_false] at hmem
    rcases hmem with rfl | rfl
    · rfl
    · rfl
  | jpeg parts fill rest hlength => rfl
  | png chunks rest hlength => rfl
  | webp size chunks rest hsize hshort => rfl

end Container

/-! ## What is found -/

/-- What is found in an image with a block: metadata from its fields, nothing if there are none of
the image itself, or what is wrong with the block. -/
def blockFinding (block : Bytes) : Except Sidecars.Error Finding :=
  match Tiff.readFields block with
  | .error e => .error (.exif e)
  | .ok fields => if flatten fields = [] then .ok .nothing else .ok (.metadata (flatten fields))

lemma imageExtractor_of_block? {fs : FileSystem} {p : Path} {file block : Bytes}
    (hread : fs.read p = .ok file) (hkind : Container.isBlockless file = false)
    (hblock : block? file = .ok (some block)) : imageExtractor fs p = blockFinding block := by
  rw [imageExtractor, hread, blockFinding]
  simp only [hkind, Bool.false_eq_true, if_false, metadata?, hblock, Bind.bind, Except.bind]
  cases Tiff.readFields block with
  | error e => rfl
  | ok fields =>
    simp only [pure, Except.pure]
    by_cases hnil : flatten fields = []
    · simp [hnil]
    · simp [hnil]

/-- What is found in an image with a block depends on the block alone, be it valid or not: it does
not matter in which kind of file the block stands, what stands before and behind it, and what the
file is called. -/
theorem imageExtractor_of_holds {block file file' : Bytes}
    (hblock : Container.tiffSignatures.any (startsWith · block) = true)
    (h : Container.Holds block file) (h' : Container.Holds block file') {fs fs' : FileSystem}
    {p p' : Path} (hread : fs.read p = .ok file) (hread' : fs'.read p' = .ok file') :
    imageExtractor fs p = imageExtractor fs' p' ∧ imageExtractor fs p = blockFinding block := by
  have hfinding := imageExtractor_of_block? hread (Container.isBlockless_of_holds hblock h)
    (Container.block?_of_holds hblock h)
  have hfinding' := imageExtractor_of_block? hread' (Container.isBlockless_of_holds hblock h')
    (Container.block?_of_holds hblock h')
  exact ⟨hfinding.trans hfinding'.symm, hfinding⟩

/-! ## Two files with one block -/

/-- TIFF data with the maker of an image. -/
def makerBlock : Bytes :=
  [0x4D, 0x4D, 0x00, 0x2A, 0x00, 0x00, 0x00, 0x08,
    0x00, 0x01, 0x01, 0x0F, 0x00, 0x02, 0x00, 0x00, 0x00, 0x02, 0x41, 0x00, 0x00, 0x00,
    0x00, 0x00, 0x00, 0x00]

/-- What stands before the block in a JPEG file: a comment behind two bytes `ff`, and the end of a
scan with a restart marker. -/
def makerParts : List Jpeg.Part :=
  [.passed 1 0xFE (ascii "Exif") ⟨by decide, by decide, by decide, by decide, by decide, by decide⟩,
    .stray 0x00 (by decide), .alone 0 0xD0 (by decide)]

/-- A chunk of odd length that stands before the block in a WebP file. -/
def makerChunk : Webp.Chunk where
  kind := ascii "VP8 "
  data := ascii "a"
  padding := 0x45
  length_kind := by decide
  noBlock := by decide

/-- A file system with the block in a JPEG file and in a WebP file. -/
def makerSystem : FileSystem where
  root := .directory 0o755
    [(⟨ascii "a.png", by decide⟩, .file 0o644 (Jpeg.file makerParts 2 makerBlock (ascii "end"))),
      (⟨ascii "b", by decide⟩, .file 0o644 (Webp.file 56 [makerChunk] makerBlock []))]
  current := []
  umask := 0o022

/-- The same maker is found in both files. -/
theorem imageExtractor_of_holds_maker :
    imageExtractor makerSystem ⟨ascii "a.png"⟩ = imageExtractor makerSystem ⟨ascii "b"⟩ ∧
      imageExtractor makerSystem ⟨ascii "a.png"⟩ =
        .ok (.metadata [(.string "Make", .string "A")]) := by
  have hjpeg : makerSystem.read ⟨ascii "a.png"⟩ =
      .ok (Jpeg.file makerParts 2 makerBlock (ascii "end")) := by decide +kernel
  have hwebp : makerSystem.read ⟨ascii "b"⟩ = .ok (Webp.file 56 [makerChunk] makerBlock []) := by
    decide +kernel
  have hfields : Tiff.readFields makerBlock = .ok [⟨⟨.tiff, 0x010F⟩, 0, .texts [ascii "A"]⟩] := by
    decide +kernel
  have hblock : Container.tiffSignatures.any (startsWith · makerBlock) = true := by decide
  obtain ⟨hsame, hfinding⟩ := imageExtractor_of_holds hblock
    (.jpeg makerParts 2 (ascii "end") (by decide))
    (.webp 56 [makerChunk] [] (by decide) (by decide)) hjpeg hwebp
  refine ⟨hsame, ?_⟩
  rw [hfinding, blockFinding, hfields]
  rfl

end Sidecars.Exif
