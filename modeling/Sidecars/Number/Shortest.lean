import Sidecars.Number.Binary64

/-!
# The shortest decimal that reads back

Every finite 64-bit number has an interval of reals that are nearer to it than to any other
number.  Of the decimals in that interval the shortest is taken, and of several shortest the one
nearest to the number.  The search goes through the numbers of digits in rising order and tests,
for each, the two neighbours of the value on the grid of that many digits.
-/

namespace Sidecars.Shortest

/-- A positive number and the interval that rounds to it, all scaled by one power of two:
`value`, and the bounds `low` and `high`, in units of `2 ^ unit`. -/
structure Target where
  /-- The number itself. -/
  value : Nat
  /-- The lower bound. -/
  low : Nat
  /-- The upper bound. -/
  high : Nat
  /-- Whether the bounds belong to the interval. -/
  closed : Bool
  /-- The power of two of the units. -/
  unit : Int
deriving Repr

/-- The interval around a finite number other than zero.  Below a power of two the neighbours are
half as far away. -/
def target (x : Binary64) : Target :=
  let m := x.significand
  let narrow := x.fraction = 0 && x.exponent > 1
  { value := 4 * m
    low := if narrow then 4 * m - 1 else 4 * m - 2
    high := 4 * m + 2
    closed := m % 2 = 0
    unit := x.scale - 2 }

/-- `n` units of `2 ^ unit`, compared with `d * 10 ^ power`: both are multiplied by the same
positive factor until they are natural numbers. -/
def onGrid (unit power : Int) (n d : Nat) : Nat × Nat :=
  let n := if 0 ≤ unit then n * Nat.pow 2 unit.toNat else n
  let d := if 0 ≤ unit then d else d * Nat.pow 2 (-unit).toNat
  if 0 ≤ power then (n, d * Nat.pow 10 power.toNat) else (n * Nat.pow 10 (-power).toNat, d)

/-- Whether `d * 10 ^ power` lies in the interval. -/
def contains (t : Target) (power : Int) (d : Nat) : Bool :=
  let low := onGrid t.unit power t.low d
  let high := onGrid t.unit power t.high d
  if t.closed then low.1 ≤ low.2 && high.2 ≤ high.1 else low.1 < low.2 && high.2 < high.1

/-- The decimal on the grid of `10 ^ power` that lies in the interval, the nearer one if both
neighbours do. -/
def pick (t : Target) (power : Int) : Option Nat :=
  let pair := onGrid t.unit power t.value 1
  let below := pair.1 / pair.2
  let rest := pair.1 % pair.2
  match contains t power below && below ≠ 0, contains t power (below + 1) with
  | true, true => some (if 2 * rest > pair.2 ∨ (2 * rest = pair.2 ∧ below % 2 = 1)
      then below + 1 else below)
  | true, false => some below
  | false, true => some (below + 1)
  | false, false => none

/-- Searches the grids from `10 ^ power` downwards. -/
def search (t : Target) : Nat → Int → Nat × Int
  | 0, power => (t.value, power)
  | fuel + 1, power =>
    match pick t power with
    | some d => (d, power)
    | none => search t fuel (power - 1)

/-- Removes zeros at the end of a decimal. -/
def trim : Nat → Nat × Int → Nat × Int
  | 0, d => d
  | fuel + 1, (digits, power) =>
    if digits % 10 = 0 && digits ≠ 0 then trim fuel (digits / 10, power + 1) else (digits, power)

/-- The digits and the power of ten of the shortest decimal that reads back as the finite,
positive number `x`, without regard to its sign. -/
def decimal (x : Binary64) : Nat × Int :=
  trim 400 (search (target x) 700 310)

end Sidecars.Shortest
