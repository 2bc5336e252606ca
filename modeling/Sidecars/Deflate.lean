import Sidecars.Binary

/-!
# Compressed data

The decompression of zlib streams: a header of two bytes, blocks of bits, and a checksum.  A block
holds bytes as they are, or symbols of two prefix codes, which stand for bytes and for copies of
bytes that came before.

What a stream gives before it breaks off is kept, so that one that merely ends too soon can be
told from one that is damaged.
-/

namespace Sidecars.Deflate

open Binary

/-- What may be wrong with a stream. -/
inductive Fault where
  /-- The stream ends too soon. -/
  | incomplete
  /-- The stream is damaged. -/
  | corrupt
deriving DecidableEq, Repr

/-- The bits that are left, and the bytes so far, the last one first. -/
structure State where
  /-- The bits that are left. -/
  bits : List Bool
  /-- The bytes so far, the last one first. -/
  out : Bytes
deriving DecidableEq, Repr

/-- A step of decompression; what a failed step has done stays done. -/
abbrev Step (α : Type) := ExceptT Fault (StateM State) α

/-- The bits of bytes, the least significant one of each first. -/
def bitsOf (bs : Bytes) : List Bool :=
  bs.flatMap fun b => (List.range 8).map b.toNat.testBit

/-- Takes one bit. -/
def bit : Step Bool := do
  let s ← get
  match s.bits with
  | [] => throw .incomplete
  | b :: bits => do
    set { s with bits := bits }
    return b

/-- Takes a number of `n` bits, the least significant one first. -/
def number : (n : Nat) → Step Nat
  | 0 => return 0
  | n + 1 => do
    let b ← bit
    return b.toNat + 2 * (← number n)

/-- Adds a byte. -/
def emit (b : UInt8) : Step Unit :=
  modify fun s => { s with out := b :: s.out }

/-- Adds `n` bytes, each a copy of the one `distance` before it. -/
def copy (distance : Nat) : (n : Nat) → Step Unit
  | 0 => return
  | n + 1 => do
    match (← get).out[distance - 1]? with
    | some b => do
      emit b
      copy distance n
    | none => throw .corrupt

/-! ## Prefix codes -/

/-- A prefix code: how many symbols have codes of 1, 2, … bits, and the symbols by their codes. -/
structure Code where
  /-- The numbers of symbols, by the lengths of their codes from 1 on. -/
  counts : List Nat
  /-- The symbols in the order of their codes. -/
  symbols : List Nat
deriving DecidableEq, Repr

/-- The length of the longest code. -/
def maxLength : Nat := 15

/-- The code in which symbol `i` has a code of `lengths[i]` bits, none for zero bits. -/
def Code.ofLengths (lengths : List Nat) : Code where
  counts := (List.range maxLength).map fun l => lengths.count (l + 1)
  symbols := (List.range maxLength).flatMap fun l =>
    (lengths.zipIdx.filter (·.1 = l + 1)).map (·.2)

/-- How many codes of the greatest length are left when all symbols have theirs; negative when
there are too many symbols. -/
def Code.room (c : Code) : Int :=
  c.counts.foldl (fun (left : Int) (n : Nat) => 2 * left - Int.ofNat n) 1

/-- Whether a code can be read: no code is missing, unless there is at most one symbol. -/
def Code.isUsable (c : Code) : Bool :=
  c.room = 0 || (0 < c.room && c.symbols.length ≤ 1)

/-- Takes the symbol whose code comes next.  `code` is what was read so far, `first` the first code
of its length and `index` how many symbols have shorter codes. -/
def Code.symbolFrom (symbols : List Nat) : (counts : List Nat) → (code first index : Nat) → Step Nat
  | [], _, _, _ => throw .corrupt
  | count :: counts, code, first, index => do
    let code := 2 * code + (← bit).toNat
    let first := 2 * first
    if code < first + count then
      match symbols[index + (code - first)]? with
      | some symbol => return symbol
      | none => throw .corrupt
    else Code.symbolFrom symbols counts code (first + count) (index + count)

/-- Takes the symbol whose code comes next. -/
def Code.symbol (c : Code) : Step Nat := Code.symbolFrom c.symbols c.counts 0 0 0

/-! ## Blocks -/

/-- The least length for each symbol of a copy, and how many bits are added to it. -/
def lengthBases : List (Nat × Nat) := [
  (3, 0), (4, 0), (5, 0), (6, 0), (7, 0), (8, 0), (9, 0), (10, 0), (11, 1), (13, 1), (15, 1),
  (17, 1), (19, 2), (23, 2), (27, 2), (31, 2), (35, 3), (43, 3), (51, 3), (59, 3), (67, 4),
  (83, 4), (99, 4), (115, 4), (131, 5), (163, 5), (195, 5), (227, 5), (258, 0)]

/-- The least distance for each symbol of a distance, and how many bits are added to it. -/
def distanceBases : List (Nat × Nat) := [
  (1, 0), (2, 0), (3, 0), (4, 0), (5, 1), (7, 1), (9, 2), (13, 2), (17, 3), (25, 3), (33, 4),
  (49, 4), (65, 5), (97, 5), (129, 6), (193, 6), (257, 7), (385, 7), (513, 8), (769, 8),
  (1025, 9), (1537, 9), (2049, 10), (3073, 10), (4097, 11), (6145, 11), (8193, 12), (12289, 12),
  (16385, 13), (24577, 13)]

/-- Takes a number whose symbol has been read. -/
def extended (bases : List (Nat × Nat)) (symbol : Nat) : Step Nat := do
  match bases[symbol]? with
  | some (base, extra) => return base + (← number extra)
  | none => throw .corrupt

/-- Reads symbols up to the end of a block; `fuel` is more than their number. -/
def readSymbols (literals distances : Code) : (fuel : Nat) → Step Unit
  | 0 => throw .corrupt
  | fuel + 1 => do
    let symbol ← literals.symbol
    if symbol < 256 then
      emit (UInt8.ofNat symbol)
      readSymbols literals distances fuel
    else if symbol = 256 then return
    else
      let length ← extended lengthBases (symbol - 257)
      let distance ← extended distanceBases (← distances.symbol)
      copy distance length
      readSymbols literals distances fuel

/-- The code for bytes and lengths of a block that brings no codes. -/
def fixedLiterals : Code :=
  .ofLengths (List.replicate 144 8 ++ List.replicate 112 9 ++ List.replicate 24 7
    ++ List.replicate 8 8)

/-- The code for distances of a block that brings no codes. -/
def fixedDistances : Code := .ofLengths (List.replicate 30 5)

/-- The order in which the lengths of the code for lengths are written. -/
def lengthOrder : List Nat :=
  [16, 17, 18, 0, 8, 7, 9, 6, 10, 5, 11, 4, 12, 3, 13, 2, 14, 1, 15]

/-- Takes lengths until there are `wanted` of them; `fuel` is more than their number. -/
def readLengths (code : Code) (wanted : Nat) : (fuel : Nat) → List Nat → Step (List Nat)
  | 0, _ => throw .corrupt
  | fuel + 1, lengths => do
    if lengths.length = wanted then return lengths
    if wanted < lengths.length then throw .corrupt
    let symbol ← code.symbol
    let more ←
      if symbol < 16 then pure [symbol]
      else if symbol = 16 then
        match lengths.getLast? with
        | some l => do pure (List.replicate (3 + (← number 2)) l)
        | none => throw .corrupt
      else if symbol = 17 then do pure (List.replicate (3 + (← number 3)) 0)
      else do pure (List.replicate (11 + (← number 7)) 0)
    readLengths code wanted fuel (lengths ++ more)

/-- Takes the two codes that a block brings. -/
def readCodes : Step (Code × Code) := do
  let literals := (← number 5) + 257
  let distances := (← number 5) + 1
  let count := (← number 4) + 4
  let given ← (lengthOrder.take count).mapM fun symbol => do return (symbol, ← number 3)
  let code := Code.ofLengths ((List.range 19).map fun s => (given.lookup s).getD 0)
  if !code.isUsable then throw .corrupt
  let lengths ← readLengths code (literals + distances) (literals + distances + 1) []
  let codes := (Code.ofLengths (lengths.take literals), Code.ofLengths (lengths.drop literals))
  if !(codes.1.isUsable && codes.2.isUsable) then throw .corrupt
  return codes

/-- Takes `n` bytes as they are. -/
def readStored : (n : Nat) → Step Unit
  | 0 => return
  | n + 1 => do
    emit (UInt8.ofNat (← number 8))
    readStored n

/-- Leaves out the bits up to the next byte. -/
def align : Step Unit :=
  modify fun s => { s with bits := s.bits.drop (s.bits.length % 8) }

/-- Reads the blocks of a stream; `fuel` is more than the number of its bits. -/
def readBlocks : (fuel : Nat) → Step Unit
  | 0 => throw .corrupt
  | fuel + 1 => do
    let last ← bit
    match ← number 2 with
    | 0 => do
      align
      let length ← number 16
      let complement ← number 16
      if length + complement ≠ 65535 then throw .corrupt
      readStored length
    | 1 => readSymbols fixedLiterals fixedDistances fuel
    | 2 => do
      let (literals, distances) ← readCodes
      readSymbols literals distances fuel
    | _ => throw .corrupt
    if last then return
    readBlocks fuel

/-! ## Streams -/

/-- The checksum of bytes. -/
def checksum (bs : Bytes) : Nat :=
  let (a, b) := bs.foldl (fun (a, b) x =>
    let a := (a + x.toNat) % 65521
    (a, (b + a) % 65521)) (1, 0)
  65536 * b + a

/-- Reads a whole stream. -/
def readStream : Step Unit := do
  let method ← number 8
  let flags ← number 8
  if method % 16 ≠ 8 || 7 < method / 16 || (256 * method + flags) % 31 ≠ 0 || flags.testBit 5 then
    throw .corrupt
  readBlocks ((← get).bits.length + 1)
  align
  let bytes ← (List.range 4).mapM fun _ => number 8
  let sum := bytes.foldl (fun n b => 256 * n + b) 0
  if sum ≠ checksum (← get).out.reverse then throw .corrupt

/-- The bytes that a stream holds, and what is wrong with it. -/
def decompress (bs : Bytes) : Bytes × Option Fault :=
  let (result, s) := readStream.run.run { bits := bitsOf bs, out := [] }
  match result with
  | .ok () => (s.out.reverse, none)
  | .error fault => (s.out.reverse, some fault)

end Sidecars.Deflate
