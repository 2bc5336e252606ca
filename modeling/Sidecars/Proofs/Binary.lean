import Mathlib.Algebra.Group.Nat.Defs
import Sidecars.Binary

/-!
# Numbers written as bytes

A number is written with a fixed number of bytes in either byte order, and read back from them if
there are enough.

* `Binary.bigNat_bigBytes` and `Binary.littleNat_littleBytes` read the number back;
* `Binary.cut?_of_length` takes as many bytes as there are known to be, and `Binary.cut?_eq_none`
  fails to take more.
-/

namespace Sidecars.Binary

variable {n : Nat} {bs start : Bytes}

/-- The last `k` bytes of a number, the least significant one first. -/
def littleBytes : (k : Nat) → Nat → Bytes
  | 0, _ => []
  | k + 1, n => UInt8.ofNat n :: littleBytes k (n / 256)

/-- The last `k` bytes of a number, the most significant one first. -/
def bigBytes (k n : Nat) : Bytes := (littleBytes k n).reverse

@[simp] lemma length_littleBytes (k n : Nat) : (littleBytes k n).length = k := by
  induction k generalizing n with
  | zero => rfl
  | succ k ih => rw [littleBytes, List.length_cons, ih]

@[simp] lemma length_bigBytes (k n : Nat) : (bigBytes k n).length = k := by
  rw [bigBytes, List.length_reverse, length_littleBytes]

/-- A number that is not too large for `k` bytes is read back from them. -/
theorem littleNat_littleBytes {k : Nat} (h : n < 256 ^ k) : littleNat (littleBytes k n) = n := by
  induction k generalizing n with
  | zero =>
    obtain rfl : n = 0 := by simpa using h
    rfl
  | succ k ih =>
    have hdiv : n / 256 < 256 ^ k := by
      rw [Nat.pow_succ, Nat.mul_comm] at h
      exact Nat.div_lt_of_lt_mul h
    rw [littleBytes, littleNat, ih hdiv]
    exact Nat.mod_add_div n 256

lemma bigNat_reverse (bs : Bytes) : bigNat bs.reverse = littleNat bs := by
  induction bs with
  | nil => rfl
  | cons b bs ih =>
    rw [List.reverse_cons, bigNat, List.foldl_append]
    change 256 * bigNat bs.reverse + b.toNat = b.toNat + 256 * littleNat bs
    rw [ih, Nat.add_comm]

theorem bigNat_bigBytes {k : Nat} (h : n < 256 ^ k) : bigNat (bigBytes k n) = n := by
  rw [bigBytes, bigNat_reverse, littleNat_littleBytes h]

/-! ## Taking bytes -/

lemma cut?_of_length {xs : Bytes} (h : xs.length = n) (rest : Bytes) :
    cut? n (xs ++ rest) = some (xs, rest) := by
  rw [← h, cut?_append]

lemma cut?_eq_none (h : bs.length < n) : cut? n bs = none := by
  have hne : (bs.take n).length ≠ n := by
    rw [List.length_take]
    omega
  rw [cut?, if_neg hne]

lemma startsWith_iff : startsWith start bs = true ↔ start <+: bs := List.isPrefixOf_iff_prefix

lemma startsWith_append (start bs : Bytes) : startsWith start (start ++ bs) = true :=
  startsWith_iff.2 (List.prefix_append _ _)

end Sidecars.Binary
