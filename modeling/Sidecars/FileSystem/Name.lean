import Sidecars.Path

/-!
# Names of directory entries

An entry of a directory is called by any non-empty sequence of bytes without a slash, except the
two that stand for the directory itself and for its parent.  Names are ordered by their bytes.
-/

namespace Sidecars

/-- What an entry of a directory may be called. -/
structure Name where
  /-- The name as bytes. -/
  bytes : Bytes
  /-- What no name may be. -/
  plain : bytes ≠ [] ∧ bytes ≠ [Path.dot] ∧ bytes ≠ [Path.dot, Path.dot] ∧ Path.slash ∉ bytes
deriving DecidableEq, Repr

namespace Name

/-- The name made of some bytes, if they may be one. -/
def ofBytes? (bs : Bytes) : Option Name :=
  if h : bs ≠ [] ∧ bs ≠ [Path.dot] ∧ bs ≠ [Path.dot, Path.dot] ∧ Path.slash ∉ bs then some ⟨bs, h⟩
  else none

/-- How long a name may be for the system to look it up. -/
def maxLength : Nat := 255

/-- A list of distinct names in ascending order with one more name. -/
def insertSorted (a : Name) : List Name → List Name
  | [] => [a]
  | b :: names =>
    if a.bytes < b.bytes then a :: b :: names
    else if a = b then b :: names
    else b :: insertSorted a names

/-- Names in ascending order, each once. -/
def sorted (names : List Name) : List Name := names.foldr insertSorted []

theorem mem_insertSorted {a b : Name} {names : List Name} :
    b ∈ insertSorted a names ↔ b = a ∨ b ∈ names := by
  induction names with
  | nil => simp [insertSorted]
  | cons c names ih =>
    unfold insertSorted
    split
    · simp
    · split
      · next h => subst h; simp
      · simp only [List.mem_cons, ih]
        constructor
        · rintro (h | h | h) <;> simp [h]
        · rintro (h | h | h) <;> simp [h]

theorem mem_sorted {a : Name} {names : List Name} : a ∈ sorted names ↔ a ∈ names := by
  induction names with
  | nil => simp [sorted]
  | cons b names ih =>
    have : sorted (b :: names) = insertSorted b (sorted names) := rfl
    rw [this, mem_insertSorted, ih, List.mem_cons]

end Name
end Sidecars
