/-!
# Binary floating-point numbers

Numbers of 64 and 32 bits in the binary interchange formats.  A number is its bits; its value, if
it is finite, is a natural number times a power of two, so everything below is exact arithmetic on
integers.

* `Binary64.ofRatio` is the number nearest to a quotient, ties going to the even neighbour;
* `Binary64.ofDecimal` is the number nearest to a decimal fraction;
* `Binary64.ofSingle` is the number that a 32-bit number stands for.
-/

namespace Sidecars

/-- A floating-point number of 64 bits. -/
structure Binary64 where
  /-- The sign, eleven bits of exponent and fifty-two of fraction. -/
  bits : UInt64
deriving DecidableEq, Repr

namespace Binary64

/-- Whether the sign bit is set. -/
def isNegative (x : Binary64) : Bool := Nat.pow 2 63 ≤ x.bits.toNat

/-- The exponent field. -/
def exponent (x : Binary64) : Nat := x.bits.toNat / Nat.pow 2 52 % Nat.pow 2 11

/-- The fraction field. -/
def fraction (x : Binary64) : Nat := x.bits.toNat % Nat.pow 2 52

/-- Whether the number stands for no value at all. -/
def isNaN (x : Binary64) : Bool := x.exponent = 2047 && x.fraction ≠ 0

/-- Whether the number is one of the two infinities. -/
def isInfinite (x : Binary64) : Bool := x.exponent = 2047 && x.fraction = 0

/-- Whether the number is one of the two zeros. -/
def isZero (x : Binary64) : Bool := x.exponent = 0 && x.fraction = 0

/-- Whether the number has a finite value. -/
def isFinite (x : Binary64) : Bool := x.exponent ≠ 2047

/-- The number with the given sign and the given lower 63 bits. -/
def ofParts (negative : Bool) (magnitude : Nat) : Binary64 :=
  ⟨UInt64.ofNat ((if negative then Nat.pow 2 63 else 0) + magnitude)⟩

/-- The lower 63 bits of an infinity. -/
def infinityMagnitude : Nat := 2047 * Nat.pow 2 52

/-- Positive or negative infinity. -/
def infinity (negative : Bool) : Binary64 := ofParts negative infinityMagnitude

/-- The number that stands for no value. -/
def nan : Binary64 := ofParts false (infinityMagnitude + Nat.pow 2 51)

/-- The value of a finite number without its sign, as `significand * 2 ^ scale`. -/
def significand (x : Binary64) : Nat :=
  if x.exponent = 0 then x.fraction else Nat.pow 2 52 + x.fraction

/-- The power of two that goes with `significand`. -/
def scale (x : Binary64) : Int :=
  if x.exponent = 0 then -1074 else (x.exponent : Int) - 1075

/-- The quotient of two natural numbers rounded to the nearest integer, a half to the even one. -/
def roundQuotient (num den : Nat) : Nat :=
  let q := num / den
  let twice := 2 * (num % den)
  if twice > den ∨ (twice = den ∧ q % 2 = 1) then q + 1 else q

/-- `num / den * 2 ^ (-e)` as a quotient of natural numbers. -/
def scaled (num den : Nat) (e : Int) : Nat × Nat :=
  if 0 ≤ e then (num, den * Nat.pow 2 e.toNat) else (num * Nat.pow 2 (-e).toNat, den)

/-- The lower 63 bits of the number nearest to `num / den`. -/
def magnitudeOfRatio (num den : Nat) : Nat :=
  if num = 0 then 0
  else
    let guess : Int := (Nat.log2 num : Int) - (Nat.log2 den : Int) - 53
    let pair := scaled num den guess
    let exact := if pair.1 / pair.2 < Nat.pow 2 53 then guess else guess + 1
    let e := max exact (-1074)
    let pair := scaled num den e
    min infinityMagnitude ((e + 1074).toNat * Nat.pow 2 52 + roundQuotient pair.1 pair.2)

/-- The number nearest to plus or minus `num / den`. -/
def ofRatio (negative : Bool) (num den : Nat) : Binary64 :=
  ofParts negative (magnitudeOfRatio num den)

/-- The number nearest to plus or minus `digits * 10 ^ exponent`.  Exponents far outside the
range of the format are not raised to a power: there the result is known. -/
def ofDecimal (negative : Bool) (digits : Nat) (exponent : Int) : Binary64 :=
  let size : Int := (Nat.log2 digits : Int)
  if digits = 0 ∨ 4 * size + 13 * exponent < -14400 then ofParts negative 0
  else if 13 * exponent > 4100 then infinity negative
  else if 0 ≤ exponent then ofRatio negative (digits * Nat.pow 10 exponent.toNat) 1
  else ofRatio negative digits (Nat.pow 10 (-exponent).toNat)

/-- The 64-bit number of the same value as a 32-bit one.  A number that stands for no value keeps
its sign and the upper part of its fraction, made quiet. -/
def ofSingle (bits : Nat) : Binary64 :=
  let negative := Nat.pow 2 31 ≤ bits
  let exponent := bits / Nat.pow 2 23 % Nat.pow 2 8
  let fraction := bits % Nat.pow 2 23
  if exponent = 255 then
    if fraction = 0 then infinity negative
    else ofParts negative (infinityMagnitude + (fraction * Nat.pow 2 29) ||| Nat.pow 2 51)
  else if exponent = 0 then
    ofRatio negative fraction (Nat.pow 2 149)
  else
    ofParts negative ((exponent + 896) * Nat.pow 2 52 + fraction * Nat.pow 2 29)

/-- Equality of values: the two zeros are one, and here all numbers that stand for no value are
one, too. -/
def same (x y : Binary64) : Bool :=
  if x.isNaN || y.isNaN then x.isNaN && y.isNaN
  else (x.isZero && y.isZero) || x = y

end Binary64
end Sidecars
