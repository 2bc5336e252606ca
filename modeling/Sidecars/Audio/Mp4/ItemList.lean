import Sidecars.Audio.Mp4.Atom
import Sidecars.Audio.Tag

/-!
# The list of items of an MP4 file

Every atom of the list is an item, and its values are atoms within it, each with a number that
tells its type.  Of the types only the two of text matter here.
-/

namespace Sidecars.Audio.Mp4

open Binary

/-- The kinds of the atoms about the subjects, in lower case. -/
def subjectKinds : List (Bytes × Subject) := [
  (0xA9 :: ascii "art", .artist), (0xA9 :: ascii "alb", .album), (0xA9 :: ascii "nam", .title)]

/-- The subject of an atom, in any case of its letters. -/
def subjectOf? (kind : Bytes) : Option Subject := subjectKinds.lookup (kind.map lowerByte)

/-- The text of a value of a type, if it is text; none at all if the value is wrong. -/
def valueText? (type : Nat) (bs : Bytes) : Option (Option String) :=
  match type with
  | 1 => (utf8? bs).map fun s => some (String.ofList s)
  | 2 =>
    match utf16 .big bs with
    | .ok s => some (some (String.ofList s))
    | .error _ => none
  | 21 | 22 => if 1 ≤ bs.length ∧ bs.length ≤ 4 then some none else none
  | _ => some none

/-- Takes the values of an item of which `size` bytes are left; `fuel` is more than their number.
Empty values do not count. -/
def readValues : (fuel : Nat) → (size : Nat) → Atoms (List (Nat × Bytes))
  | 0, _ => return []
  | fuel + 1, size => do
    if size = 0 then return []
    match ← nextAtom with
    | none => return []
    | some atom => do
      if atom.size < 16 then return []
      if atom.kind ≠ ascii "data" then
        skipAtom atom
        readValues fuel (size - atom.size)
      else
        let type := (← Atoms.number 4) % 0x1000000
        Atoms.move 4
        let value ← Atoms.take (atom.size - 16)
        let values ← readValues fuel (size - atom.size)
        return if value = [] then values else (type, value) :: values

/-- Kinds of atoms without values. -/
def emptyKinds : List Bytes := [ascii "free", ascii "skip"]

/-- Takes the items of a list; `fuel` is more than their number.  The list ends quietly at an atom
that is none. -/
def readItems : (fuel : Nat) → Atoms (List Item)
  | 0 => return []
  | fuel + 1 => do
    match ← Atoms.quietly nextAtom with
    | none => return []
    | some atom => do
      if emptyKinds.contains atom.kind then
        skipAtom atom
        readItems fuel
      else
        let size := atom.start + atom.size - (← Atoms.position)
        let values ← readValues (size + 1) size
        let item : Option Item := do
          let subject ← subjectOf? atom.kind
          let texts ← values.mapM fun v => valueText? v.1 v.2
          return ⟨subject, ← texts.head?⟩
        return item.toList ++ (← readItems fuel)

/-- The tag that the contents of a list make. -/
def tagOf (contents : Bytes) : Except Error Tag := do
  return ⟨.itemList, ← (readItems (contents.length + 1)).result contents⟩

end Sidecars.Audio.Mp4
