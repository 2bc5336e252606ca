import Sidecars.Proofs.Exif.Reread

/-!
# Numbers in metadata

A field of whole numbers or fractions becomes a list of values, or a single value if there is just
one number.  No number is changed on the way: the list can be computed back from the value, and
fractions with both of their parts and not reduced.  It can also be computed back from the value
that is read from a sidecar, since integers and such fractions are read back as they were written.

* `NumberKind` are the eight types of numbers, and `NumberKind.decode` computes the numbers back;
* `NumberKind.component?_shown` does so for one number and `NumberKind.decode_metadataValue` for a
  field;
* `numbers_recoverable` adds the sidecar.
-/

namespace Sidecars.Exif

open Yaml (Value Scalar.integer?)

/-! ## Fractions -/

/-- The integer that a text spells. -/
def wholeOf? (s : List Char) : Option Int :=
  match Scalar.integer? s with
  | some (.int n) => some n
  | _ => none

/-- The two parts of a fraction: the integers in front of the first slash and behind it. -/
def fractionParts? (s : String) : Option (Int × Int) :=
  match wholeOf? (s.toList.takeWhile (· ≠ '/')), wholeOf? (s.toList.dropWhile (· ≠ '/')).tail with
  | some num, some den => some (num, den)
  | _, _ => none

lemma wholeOf?_toString {n : Int} (hlow : -2 ^ 63 ≤ n) (hhigh : n < 2 ^ 64) :
    wholeOf? (toString n).toList = some n := by
  rw [wholeOf?, Yaml.Scalar.integer?_toString hlow hhigh]

lemma slash_notMem_toString (n : Int) : '/' ∉ (toString n).toList := by
  intro h
  have hchar := (Yaml.Scalar.isNumeral_toString n).isNumber.of_mem h
  simp [Yaml.Scalar.IsNumberChar] at hchar

/-- A fraction is read back part by part. -/
lemma fractionParts?_eq {num den : Int} (hnum : -2 ^ 63 ≤ num ∧ num < 2 ^ 64)
    (hden : -2 ^ 63 ≤ den ∧ den < 2 ^ 64) :
    fractionParts? (toString num ++ "/" ++ toString den) = some (num, den) := by
  have htext : (toString num ++ "/" ++ toString den).toList =
      (toString num).toList ++ '/' :: (toString den).toList := by simp
  have hne : ∀ c ∈ (toString num).toList, (c ≠ '/' : Bool) = true := by
    intro c hc
    rw [decide_eq_true_eq]
    rintro rfl
    exact slash_notMem_toString num hc
  have hfront : (toString num ++ "/" ++ toString den).toList.takeWhile (· ≠ '/') =
      (toString num).toList := by
    rw [htext, List.takeWhile_append_of_pos hne, List.takeWhile_cons_of_neg (by decide),
      List.append_nil]
  have hback : ((toString num ++ "/" ++ toString den).toList.dropWhile (· ≠ '/')).tail =
      (toString den).toList := by
    rw [htext, List.dropWhile_append_of_pos hne, List.dropWhile_cons_of_neg (by decide),
      List.tail_cons]
  rw [fractionParts?, hfront, hback, wholeOf?_toString hnum.1 hnum.2,
    wholeOf?_toString hden.1 hden.2]

/-! ## Types of numbers -/

/-- The types of fields that hold whole numbers or fractions. -/
inductive NumberKind where
  /-- Numbers of one byte. -/
  | byte
  /-- Numbers of two bytes. -/
  | short
  /-- Numbers of four bytes. -/
  | long
  /-- Numbers of one byte with a sign. -/
  | signedByte
  /-- Numbers of two bytes with a sign. -/
  | signedShort
  /-- Numbers of four bytes with a sign. -/
  | signedLong
  /-- Fractions. -/
  | ratio
  /-- Fractions with signs. -/
  | signedRatio
deriving DecidableEq, Repr

namespace NumberKind

/-- One of the numbers in a field. -/
abbrev Component : NumberKind → Type
  | .byte => UInt8
  | .short => UInt16
  | .long => UInt32
  | .signedByte => Int8
  | .signedShort => Int16
  | .signedLong => Int32
  | .ratio => UInt32 × UInt32
  | .signedRatio => Int32 × Int32

/-- The value of a field with these numbers. -/
def value : (kind : NumberKind) → List kind.Component → FieldValue
  | .byte, xs => .bytes xs
  | .short, xs => .shorts xs
  | .long, xs => .longs xs
  | .signedByte, xs => .signedBytes xs
  | .signedShort, xs => .signedShorts xs
  | .signedLong, xs => .signedLongs xs
  | .ratio, xs => .ratios xs
  | .signedRatio, xs => .signedRatios xs

/-- What a number becomes in metadata. -/
def shown : (kind : NumberKind) → kind.Component → Value
  | .byte, n => .int n.toNat
  | .short, n => .int n.toNat
  | .long, n => .int n.toNat
  | .signedByte, n => .int n.toInt
  | .signedShort, n => .int n.toInt
  | .signedLong, n => .int n.toInt
  | .ratio, r => fraction r.1.toNat r.2.toNat
  | .signedRatio, r => fraction r.1.toInt r.2.toInt

/-- The number that a value in metadata stands for. -/
def component? : (kind : NumberKind) → Value → Option kind.Component
  | .byte, .int n => some (UInt8.ofNat n.toNat)
  | .short, .int n => some (UInt16.ofNat n.toNat)
  | .long, .int n => some (UInt32.ofNat n.toNat)
  | .signedByte, .int n => some (Int8.ofInt n)
  | .signedShort, .int n => some (Int16.ofInt n)
  | .signedLong, .int n => some (Int32.ofInt n)
  | .ratio, .string s =>
    (fractionParts? s).map fun r => (UInt32.ofNat r.1.toNat, UInt32.ofNat r.2.toNat)
  | .signedRatio, .string s => (fractionParts? s).map fun r => (Int32.ofInt r.1, Int32.ofInt r.2)
  | _, _ => none

/-- The members of a list of values that may have become a single value. -/
def members : Value → List Value
  | .sequence vs => vs
  | v => [v]

/-- The numbers of a field, computed back from its value in metadata. -/
def decode (kind : NumberKind) (v : Value) : List kind.Component :=
  (members v).filterMap kind.component?

variable {kind : NumberKind} {vs : List Value}

/-! ## From the value back to the numbers -/

lemma metadataValue_eq (kind : NumberKind) (xs : List kind.Component) (tag : Tag) (image : Nat) :
    Field.metadataValue ⟨tag, image, kind.value xs⟩ = collapse (xs.map kind.shown) := by
  cases kind <;> rfl

/-- A number is an integer or a text, and no list. -/
lemma shown_cases (x : kind.Component) :
    (∃ n, kind.shown x = .int n) ∨ ∃ s, kind.shown x = .string s := by
  cases kind with
  | ratio => exact .inr ⟨_, rfl⟩
  | signedRatio => exact .inr ⟨_, rfl⟩
  | byte | short | long | signedByte | signedShort | signedLong => exact .inl ⟨_, rfl⟩

lemma component?_shown (x : kind.Component) : kind.component? (kind.shown x) = some x := by
  have hnat {n : Nat} (h : n < 2 ^ 32) : -2 ^ 63 ≤ (n : Int) ∧ (n : Int) < 2 ^ 64 := by omega
  have hint {n : Int} (h : -2 ^ 31 ≤ n ∧ n < 2 ^ 31) : -2 ^ 63 ≤ n ∧ n < 2 ^ 64 := by omega
  cases kind with
  | byte => simp [shown, component?]
  | short => simp [shown, component?]
  | long => simp [shown, component?]
  | signedByte => simp [shown, component?]
  | signedShort => simp [shown, component?]
  | signedLong => simp [shown, component?]
  | ratio =>
    obtain ⟨num, den⟩ := x
    rw [shown, fraction, component?, fractionParts?_eq (hnat num.toNat_lt) (hnat den.toNat_lt)]
    simp
  | signedRatio =>
    obtain ⟨num, den⟩ := x
    rw [shown, fraction, component?, fractionParts?_eq (hint ⟨num.le_toInt, num.toInt_lt⟩)
      (hint ⟨den.le_toInt, den.toInt_lt⟩)]
    simp

/-- No list stands in a list that was collapsed, so its members can be told. -/
lemma members_collapse (h : ∀ v ∈ vs, ∀ items, v ≠ .sequence items) :
    members (collapse vs) = vs := by
  unfold collapse
  split
  · next v =>
    unfold members
    split
    · next items => exact absurd rfl (h (.sequence items) (by simp) items)
    · rfl
  · rfl

/-- The numbers of a field are computed back from its value: none, one or many. -/
theorem decode_metadataValue (kind : NumberKind) (xs : List kind.Component) (tag : Tag)
    (image : Nat) : kind.decode (Field.metadataValue ⟨tag, image, kind.value xs⟩) = xs := by
  have hmembers : members (collapse (xs.map kind.shown)) = xs.map kind.shown := by
    refine members_collapse fun v hv items => ?_
    obtain ⟨x, -, rfl⟩ := List.mem_map.1 hv
    rcases shown_cases x with ⟨n, hn⟩ | ⟨s, hs⟩
    · simp [hn]
    · simp [hs]
  have hcomponent : kind.component? ∘ kind.shown = some := funext component?_shown
  rw [decode, metadataValue_eq, hmembers, List.filterMap_map, hcomponent, List.filterMap_some]

/-! ## Reading the value back -/

lemma reread_collapse (h : ∀ v ∈ vs, v.reread = v) : (collapse vs).reread = collapse vs := by
  unfold collapse
  split
  · exact h _ (by simp)
  · rw [Value.reread, Yaml.rereadItems_eq_self h]

/-- Numbers are read back as they were written. -/
lemma reread_metadataValue (kind : NumberKind) (xs : List kind.Component) (tag : Tag)
    (image : Nat) : (Field.metadataValue ⟨tag, image, kind.value xs⟩).reread =
      Field.metadataValue ⟨tag, image, kind.value xs⟩ := by
  rw [metadataValue_eq]
  refine reread_collapse fun v hv => ?_
  obtain ⟨x, -, rfl⟩ := List.mem_map.1 hv
  rcases shown_cases x with ⟨n, hn⟩ | ⟨s, hs⟩
  · rw [hn]
    rfl
  · rw [hs]
    rfl

end NumberKind

/-- For each type of numbers, one function computes the numbers of a field back from its value in
metadata, so fields of one type with different numbers have different values.  The metadata of an
image is always written, and the value of a tag that is read from the sidecar is still the one of
the last field of the tag, and gives its numbers, whatever other fields there are. -/
theorem numbers_recoverable :
    (∀ (kind : NumberKind) (xs : List kind.Component) (tag : Tag) (image : Nat),
      kind.decode (Field.metadataValue ⟨tag, image, kind.value xs⟩) = xs) ∧
    (∀ (kind : NumberKind) (xs ys : List kind.Component) (tag tag' : Tag) (image image' : Nat),
      Field.metadataValue ⟨tag, image, kind.value xs⟩ =
        Field.metadataValue ⟨tag', image', kind.value ys⟩ → xs = ys) ∧
    ∀ fields : List Field, ∃ text m, Frontmatter.render (flatten fields) = .ok text ∧
      (∀ fs p, fs.read p = .ok (Text.Utf8.encode text) → Sidecar.read fs p = .ok m) ∧
      ∀ (t : Tag) (f : Field) (kind : NumberKind) (xs : List kind.Component),
        last? (primary fields) t = some f → f.value = kind.value xs →
        valueOf? m t = some f.metadataValue ∧ (valueOf? m t).map kind.decode = some xs := by
  refine ⟨NumberKind.decode_metadataValue, ?_, ?_⟩
  · intro kind xs ys tag tag' image image' h
    have hdecode := congrArg kind.decode h
    rwa [NumberKind.decode_metadataValue, NumberKind.decode_metadataValue] at hdecode
  · intro fields
    obtain ⟨text, htext, hread⟩ := exists_render_flatten fields
    refine ⟨text, _, htext, hread, ?_⟩
    rintro t ⟨tag, image, _⟩ kind xs hlast rfl
    have hvalue := valueOf?_rereadEntries hlast
    rw [NumberKind.reread_metadataValue] at hvalue
    refine ⟨hvalue, ?_⟩
    rw [hvalue, Option.map_some, NumberKind.decode_metadataValue]

/-! ## A position -/

/-- A latitude, an exposure with a sign, and a floating-point number. -/
def positionFields : List Field :=
  [⟨⟨.gps, 2⟩, 0, .ratios [(48, 1), (51, 1), (2990, 100)]⟩,
    ⟨⟨.exif, 0x9204⟩, 0, .signedRatios [(-1, 3)]⟩,
    ⟨⟨.tiff, 0xC000⟩, 0, .doubles [0x3FF8000000000000]⟩]

/-- The fractions are read from a sidecar as they were, not reduced and with the sign. -/
theorem numbers_recoverable_position :
    ∃ fs p m, Sidecar.read fs p = .ok m ∧
      valueOf? m ⟨.gps, 2⟩ =
        some (.sequence [.string "48/1", .string "51/1", .string "2990/100"]) ∧
      (valueOf? m ⟨.exif, 0x9204⟩).map (NumberKind.decode .signedRatio) = some [(-1, 3)] := by
  obtain ⟨-, -, hsidecar⟩ := numbers_recoverable
  obtain ⟨text, m, -, hread, hvalues⟩ := hsidecar positionFields
  have hposition := hvalues ⟨.gps, 2⟩ _ .ratio [(48, 1), (51, 1), (2990, 100)] rfl rfl
  have hexposure := hvalues ⟨.exif, 0x9204⟩ _ .signedRatio [(-1, 3)] rfl rfl
  let tree := Node.directory 0o755
    [(⟨Binary.ascii "a", by decide⟩, .file 0o644 (Text.Utf8.encode text))]
  refine ⟨{ root := tree, current := [], umask := 0o022 }, ⟨Binary.ascii "a"⟩, m,
    hread _ _ rfl, hposition.1.trans ?_, hexposure.2⟩
  rfl

end Sidecars.Exif
