import Sidecars.Text.Utf8

/-!
# Numbers in byte sequences

The pieces from which binary formats are read: numbers of a fixed width in either byte order, and
the first bytes of a sequence when there are enough of them.
-/

namespace Sidecars.Binary

/-- In which order the bytes of a number stand. -/
inductive Endian where
  /-- The most significant byte first. -/
  | big
  /-- The least significant byte first. -/
  | little
deriving DecidableEq, Repr

/-- The number that bytes make with the most significant one first. -/
def bigNat (bs : Bytes) : Nat :=
  bs.foldl (fun n b => 256 * n + b.toNat) 0

/-- The number that bytes make with the least significant one first. -/
def littleNat : Bytes → Nat
  | [] => 0
  | b :: bs => b.toNat + 256 * littleNat bs

/-- The number that bytes make. -/
def Endian.nat : Endian → Bytes → Nat
  | .big, bs => bigNat bs
  | .little, bs => littleNat bs

/-- The first `n` bytes and those behind them, when there are so many. -/
def cut? (n : Nat) (bs : Bytes) : Option (Bytes × Bytes) :=
  if (bs.take n).length = n then some (bs.take n, bs.drop n) else none

theorem cut?_eq_some {n : Nat} {bs xs rest : Bytes} (h : cut? n bs = some (xs, rest)) :
    bs = xs ++ rest ∧ xs.length = n := by
  unfold cut? at h
  split at h
  · next hn =>
    simp only [Option.some.injEq, Prod.mk.injEq] at h
    obtain ⟨rfl, rfl⟩ := h
    exact ⟨(List.take_append_drop n bs).symm, hn⟩
  · simp at h

theorem cut?_length {n : Nat} {bs xs rest : Bytes} (h : cut? n bs = some (xs, rest)) :
    rest.length + n = bs.length := by
  obtain ⟨rfl, rfl⟩ := cut?_eq_some h
  simp [Nat.add_comm]

theorem cut?_append (xs rest : Bytes) : cut? xs.length (xs ++ rest) = some (xs, rest) := by
  simp [cut?]

/-- Up to `n` bytes from a position. -/
def slice (bs : Bytes) (start n : Nat) : Bytes := (bs.drop start).take n

/-- The pieces of a byte sequence between the occurrences of a separator; never none. -/
def splitAt (sep : UInt8) : Bytes → List Bytes
  | [] => [[]]
  | b :: rest =>
    if b = sep then [] :: splitAt sep rest
    else
      match splitAt sep rest with
      | piece :: pieces => (b :: piece) :: pieces
      | [] => [[b]]

/-- Whether bytes start with others. -/
def startsWith (start bs : Bytes) : Bool := start.isPrefixOf bs

/-- The bytes of an ASCII text. -/
def ascii (s : String) : Bytes := Text.Utf8.encode s

end Sidecars.Binary
