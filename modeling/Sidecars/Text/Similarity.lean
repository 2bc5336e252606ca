/-!
# Similar texts

How alike two texts are, as the Jaro similarity measures it.  A character of one text *matches* an
equal one of the other text that stands near enough and is not matched yet; matched characters in
another order are *transposed*.  The similarity is the mean of the share of matched characters in
either text and of the share of matched characters that are not transposed.

Two texts are called similar from seven tenths on.
-/

namespace Sidecars.Text.Similarity

/-- How far from its own position a character may match. -/
def reach (a b : List Char) : Nat := max a.length b.length / 2 - 1

/-- The first position from `low` on and before `high` at which a text has a character and that is
not taken. -/
def findFree (c : Char) (low high : Nat) (taken : List Nat) (b : List Char) : Option Nat :=
  (List.range (min high b.length)).find? fun j => low ≤ j && b[j]? = some c && !taken.contains j

/-- The matches of a text with another one: pairs of positions, by the positions in the first. -/
def pairs (a b : List Char) : List (Nat × Nat) :=
  (a.zipIdx.foldl (fun found (c, i) =>
    match findFree c (i - reach a b) (i + reach a b + 1) (found.map Prod.snd) b with
    | some j => found ++ [(i, j)]
    | none => found) [])

/-- How many matched characters stand in another order, counted in pairs. -/
def transposed (a b : List Char) (found : List (Nat × Nat)) : Nat :=
  let first := found.map fun p => a[p.1]?
  let second := ((found.map Prod.snd).mergeSort (· ≤ ·)).map fun j => b[j]?
  ((first.zip second).countP fun p => p.1 ≠ p.2) / 2

/-- A similarity as a fraction: the sum of the three shares over their common denominator, which is
zero if nothing matches. -/
structure Degree where
  /-- Three times the similarity, times the denominator. -/
  num : Nat
  /-- The denominator. -/
  den : Nat
deriving DecidableEq, Repr

/-- How similar two texts are. -/
def degree (a b : List Char) : Degree :=
  let found := pairs a b
  let m := found.length
  let t := transposed a b found
  ⟨m * b.length * m + m * a.length * m + (m - t) * a.length * b.length, a.length * b.length * m⟩

/-- Whether a degree is at least as high as another one. -/
def Degree.atLeast (x y : Degree) : Bool := y.num * x.den ≤ x.num * y.den

/-- Whether a degree is that of similar texts: at least seven tenths. -/
def Degree.isSimilar (x : Degree) : Bool := 0 < x.den && 21 * x.den ≤ 10 * x.num

/-- The text among some that is most similar to a given one, if any is similar; the last one of
several. -/
def best? (given : String) (texts : List String) : Option String :=
  let scored := (texts.map fun t => (t, degree given.toList t.toList)).filter (·.2.isSimilar)
  (scored.foldl (fun best x =>
    match best with
    | some y => if x.2.atLeast y.2 then some x else some y
    | none => some x) none).map Prod.fst

end Sidecars.Text.Similarity
