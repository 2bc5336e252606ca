import Sidecars.Audio.Error
import Sidecars.Binary

/-!
# Reading bytes one after the other

The steps from which the readers of tags are made.  Each takes bytes from the front of a source
and may fail; what a failed step has taken stays taken.
-/

namespace Sidecars.Audio

open Binary

/-- Bytes to be read. -/
structure Source where
  /-- The bytes that are left. -/
  bytes : Bytes
  /-- What reading runs into behind them, if that is more than their end. -/
  fault : Option Error
deriving DecidableEq, Repr

/-- A source of bytes that just end. -/
def Source.ofBytes (bs : Bytes) : Source := ⟨bs, none⟩

/-- A step of reading. -/
abbrev Reading (α : Type) := ExceptT Error (StateM Source) α

namespace Reading

variable {α : Type}

/-- Runs a step, and gives its result and what is left. -/
def on (r : Reading α) (s : Source) : Except Error α × Source := r.run.run s

/-- The result of a step on bytes. -/
def result (r : Reading α) (bs : Bytes) : Except Error α := (r.on (.ofBytes bs)).1

/-- The bytes that are left. -/
def left : Reading Bytes := do return (← get).bytes

/-- Takes exactly `n` bytes; with fewer left, takes those and fails. -/
def take (n : Nat) : Reading Bytes := do
  let s ← get
  match cut? n s.bytes with
  | some (xs, rest) => do
    set { s with bytes := rest }
    return xs
  | none => do
    set { s with bytes := [] }
    throw (s.fault.getD (.io .unexpectedEnd))

/-- Takes one byte. -/
def byte : Reading UInt8 := do
  return (← take 1).headD 0

/-- Takes a number of `n` bytes with the most significant one first. -/
def bigNumber (n : Nat) : Reading Nat := do
  return bigNat (← take n)

/-- Takes a number of `n` bytes with the least significant one first. -/
def littleNumber (n : Nat) : Reading Nat := do
  return littleNat (← take n)

/-- Takes all that is left. -/
def rest : Reading Bytes := do
  let s ← get
  set { s with bytes := [] }
  match s.fault with
  | some e => throw e
  | none => return s.bytes

/-- Takes a byte if there is one. -/
def byte? : Reading (Option UInt8) := do
  let s ← get
  match s.bytes with
  | b :: bs => do
    set { s with bytes := bs }
    return some b
  | [] => return none

/-- Leaves out up to `n` bytes. -/
def skip (n : Nat) : Reading Unit :=
  modify fun s => { s with bytes := s.bytes.drop n }

/-- Leaves out exactly `n` bytes. -/
def skipExactly (n : Nat) : Reading Unit := do
  let s ← get
  set { s with bytes := s.bytes.drop n }
  if s.bytes.length < n then throw .sizeMismatch

/-- Runs a step on the first `n` bytes only; what it leaves of them is left. -/
def within (n : Nat) (r : Reading α) : Reading α := do
  let s ← get
  let (result, inner) := r.on (.ofBytes (s.bytes.take n))
  set { s with bytes := inner.bytes ++ s.bytes.drop n }
  liftExcept result
where
  /-- The result of a step as a step. -/
  liftExcept : Except Error α → Reading α
    | .ok a => return a
    | .error e => throw e

/-- Runs a step on what a function makes of the first `n` bytes, all of which are taken. -/
def through (n : Nat) (f : Bytes → Source) (r : Reading α) : Reading α := do
  let s ← get
  set { s with bytes := s.bytes.drop n }
  match (r.on (f (s.bytes.take n))).1 with
  | .ok a => return a
  | .error e => throw e

end Reading
end Sidecars.Audio
