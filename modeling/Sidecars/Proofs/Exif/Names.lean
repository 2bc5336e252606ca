import Mathlib.Data.List.Nodup
import Sidecars.Exif.Flattening

/-!
# Names tell tags apart

Two tags never have the same name, whether they stand in the tables, in one kind of directory or in
two, or are called by their numbers.  Nor does a tag have the name of a nested mapping.  So the
fields of an image can stand in one mapping by the names of their tags.

* `Tag.unnamed_injective` is about the tags that the tables leave out, `Tag.named_nodup` about the
  others;
* `Tag.name_injective` and `Tag.name_ne_nestedKey` put the two together.
-/

namespace Sidecars.Exif

/-- The keys of the nested mappings. -/
def nestedKeys : List String := [gpsKey, interopKey]

namespace Tag

variable {t u : Tag} {s : String}

/-! ## Tags without a name -/

/-- What a tag without a name is called. -/
def unnamed (t : Tag) : String := "Tag(" ++ t.context.word ++ ", " ++ toString t.number ++ ")"

/-- The kind of directory and the number can be told from each other. -/
lemma unnamed_injective : Function.Injective unnamed := by
  rintro ⟨c, n⟩ ⟨d, m⟩ h
  have hchars : (unnamed ⟨c, n⟩).toList = (unnamed ⟨d, m⟩).toList := congrArg String.toList h
  simp only [unnamed, String.toList_append, List.append_assoc] at hchars
  have hwords := List.append_cancel_left hchars
  have hcontext : c = d := by
    -- the words differ in their first letters
    cases c <;> cases d <;> first | rfl | simp [Context.word] at hwords
  subst hcontext
  have hnumbers := List.append_cancel_left (List.append_cancel_left hwords)
  have hdigits : Nat.toDigits 10 n = Nat.toDigits 10 m := by
    simpa using List.append_cancel_right hnumbers
  have hnumber : n = m := by
    rw [← Nat.ofDigitChars_ten_toDigits (n := n), hdigits, Nat.ofDigitChars_ten_toDigits]
  rw [hnumber]

/-! ## Tags with a name -/

/-- The tags that have a name, with their names. -/
def named : List (Tag × String) :=
  [Context.tiff, .exif, .gps, .interop].flatMap fun c =>
    (namesOf c).map fun e => (⟨c, e.1⟩, e.2)

lemma mem_named_of_name? (h : t.name? = some s) : (t, s) ∈ named := by
  obtain ⟨before, behind, htable, -⟩ := List.lookup_eq_some_iff.1 h
  have hmem : (t.number, s) ∈ namesOf t.context := by
    rw [htable]
    simp
  have hcontext : t.context ∈ [Context.tiff, .exif, .gps, .interop] := by
    cases t.context <;> decide
  exact List.mem_flatMap.2 ⟨t.context, hcontext, List.mem_map.2 ⟨_, hmem, rfl⟩⟩

/-- No name stands twice in the tables, and none is the key of a nested mapping. -/
lemma named_nodup : (nestedKeys ++ named.map Prod.snd).Nodup := by decide +kernel

/-- The bytes of a text. -/
def bytesOf (s : String) : List UInt8 := s.toByteArray.data.toList

/-- No name in the tables starts as those do that tags without one are called by. -/
lemma not_prefix_named : ∀ e ∈ named, ¬ bytesOf "Tag(" <+: bytesOf e.2 := by decide +kernel

lemma prefix_unnamed (t : Tag) : bytesOf "Tag(" <+: bytesOf t.unnamed := by
  simp [unnamed, bytesOf]

/-! ## All tags -/

lemma name_cases (t : Tag) : (t, t.name) ∈ named ∨ t.name = t.unnamed := by
  cases h : t.name? with
  | some s =>
    have hname : t.name = s := by rw [name, h, Option.getD_some]
    rw [hname]
    exact .inl (mem_named_of_name? h)
  | none => exact .inr (by rw [name, h, Option.getD_none, unnamed])

lemma unnamed_notMem (h : (t, s) ∈ named) (u : Tag) : s ≠ u.unnamed := by
  rintro rfl
  exact not_prefix_named _ h (prefix_unnamed u)

/-- Two tags never have the same name. -/
theorem name_injective : Function.Injective name := by
  intro t u h
  have hnodup : (named.map Prod.snd).Nodup := named_nodup.of_append_right
  -- a name in the tables is never one that is made of a number
  rcases name_cases t with ht | ht
  · rcases name_cases u with hu | hu
    · have hentry := List.inj_on_of_nodup_map hnodup ht hu h
      exact (Prod.mk.inj hentry).1
    · exact absurd (h.trans hu) (unnamed_notMem ht u)
  · rcases name_cases u with hu | hu
    · exact absurd (h.symm.trans ht) (unnamed_notMem hu t)
    · exact unnamed_injective (ht.symm.trans (h.trans hu))

/-- A tag never has the name of a nested mapping. -/
theorem name_ne_nestedKey (t : Tag) : t.name ∉ nestedKeys := by
  intro hmem
  rcases name_cases t with ht | ht
  · exact List.disjoint_of_nodup_append named_nodup hmem (List.mem_map.2 ⟨_, ht, rfl⟩)
  · have hfirst : ∀ key ∈ nestedKeys, ¬ bytesOf "Tag(" <+: bytesOf key := by decide +kernel
    refine hfirst _ hmem ?_
    rw [ht]
    exact prefix_unnamed t

end Tag
end Sidecars.Exif
