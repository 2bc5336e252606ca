import Sidecars.Audio.Text

/-!
# Atoms

An MP4 file is a tree of atoms, each with its size and four letters in front.  Atoms are read one
after the other up to a bound; one that would leave the bound, or whose letters are none, ends the
reading.
-/

namespace Sidecars.Audio.Mp4

open Binary

/-- Where the reading of atoms is, and where it ends. -/
structure Window where
  /-- Where the next byte is. -/
  position : Nat
  /-- Where the reading ends. -/
  stop : Nat
deriving DecidableEq, Repr

/-- A step of reading a file of atoms. -/
abbrev Atoms (α : Type) := ReaderT Bytes (ExceptT Error (StateM Window)) α

namespace Atoms

variable {α : Type}

/-- The outcome of a step on the whole of some bytes. -/
def result (r : Atoms α) (bs : Bytes) : Except Error α :=
  ((r.run bs).run.run ⟨0, bs.length⟩).1

/-- Where the next byte is. -/
def position : Atoms Nat := do return (← get).position

/-- Goes to a position. -/
def goTo (p : Nat) : Atoms Unit := modify fun w => { w with position := p }

/-- Goes forward, or backward for a negative number. -/
def move (n : Int) : Atoms Unit := do
  let p : Int := (← get).position + n
  if p < 0 then throw (.io (.os .invalidArgument))
  goTo p.toNat

/-- Goes to the end of the file. -/
def goToEnd : Atoms Unit := do goTo (← read).length

/-- Sets the bound. -/
def bound (stop : Nat) : Atoms Unit := modify fun w => { w with stop := stop }

/-- Takes exactly `n` bytes. -/
def take (n : Nat) : Atoms Bytes := do
  let w ← get
  if n = 0 then return []
  if w.stop ≤ w.position then throw (.io .unexpectedEnd)
  let bs := slice (← read) w.position n
  goTo (w.position + bs.length)
  if bs.length < n then throw (.io .unexpectedEnd)
  return bs

/-- Takes a number of `n` bytes. -/
def number (n : Nat) : Atoms Nat := do return bigNat (← take n)

/-- Takes a number of `n` bytes without regard to the bound. -/
def freeNumber (n : Nat) : Atoms Nat := do
  let p ← position
  let bs := slice (← read) p n
  goTo (p + bs.length)
  if bs.length < n then throw (.io .unexpectedEnd)
  return bigNat bs

/-- Runs a step that ends quietly where it fails. -/
def quietly (r : Atoms (Option α)) : Atoms (Option α) :=
  fun bs => ExceptT.mk do
    match ← (r bs).run with
    | .ok a => return .ok a
    | .error _ => return .ok none

end Atoms

/-- An atom. -/
structure Atom where
  /-- Where it starts. -/
  start : Nat
  /-- Its size with the header. -/
  size : Nat
  /-- Its letters. -/
  kind : Bytes
deriving DecidableEq, Repr

/-- The size of the header of an atom. -/
def headerSize : Nat := 8

/-- Whether bytes may be the letters of an atom: visible ASCII, blanks, and the sign `©`. -/
def isKind (bs : Bytes) : Bool :=
  bs.all fun b => (0x20 ≤ b && b ≤ 0x7E) || b = 0xA9

/-- The letters of an atom that has a name of its own. -/
def freeformKind : Bytes := ascii "----"

/-- Takes the header of an atom of which `room` bytes may be taken. -/
def readHeader (room : Nat) : Atoms (Option Atom) := do
  let start ← Atoms.position
  let size ← Atoms.number 4
  let kind ← Atoms.take 4
  if !isKind kind then
    Atoms.goToEnd
    return none
  let size ←
    if size = 0 then do pure ((← read).length - (← Atoms.position))
    else if size = 1 then Atoms.number 8
    else pure size
  if size < headerSize then
    Atoms.goToEnd
    throw (.atom .length)
  if room < size - headerSize then
    Atoms.goToEnd
    return none
  return some ⟨start, size, kind⟩

/-- Takes one half of the name of an atom, and gives what is left of the room. -/
def readNamePart (part : String) (room : Nat) : Atoms Nat := do
  match ← readHeader room with
  | none => throw (.atom .length)
  | some atom => do
    if atom.kind ≠ ascii part ∨ atom.size < 12 then throw (.atom .length)
    if room ≤ atom.size then throw .sizeMismatch
    Atoms.move 4
    let bs ← Atoms.take (atom.size - 12)
    if (utf8? bs).isNone then throw (.atom .length)
    return room - atom.size

/-- Takes the name of an atom that has one of its own. -/
def readName (atom : Atom) : Atoms Unit := do
  if atom.size < 3 * headerSize then throw (.atom .length)
  let room ← readNamePart "mean" (atom.size - headerSize)
  let _ ← readNamePart "name" room

/-- Takes the header of the next atom, if there is one. -/
def nextAtom : Atoms (Option Atom) := do
  let w ← get
  let room := w.stop - w.position
  if room = 0 then return none
  if room < headerSize then throw .sizeMismatch
  match ← readHeader room with
  | none => return none
  | some atom => do
    if atom.kind = freeformKind then readName atom
    return some atom

/-- Leaves out the contents of an atom whose header has been taken. -/
def skipAtom (atom : Atom) : Atoms Unit := Atoms.move (Int.ofNat atom.size - headerSize)

/-- Finds the first atom of a kind among those that follow, of which `size` bytes are searched;
`fuel` is more than their number. -/
def findAtom (kind : Bytes) : (fuel : Nat) → (size : Nat) → Atoms (Option Atom)
  | 0, _ => return none
  | fuel + 1, size => do
    match ← Atoms.quietly nextAtom with
    | none => return none
    | some atom => do
      if atom.kind = kind then return some atom
      skipAtom atom
      if size ≤ atom.size then return none
      findAtom kind fuel (size - atom.size)

end Sidecars.Audio.Mp4
