import Sidecars.Proofs.Exif.Flattening
import Sidecars.Proofs.Sidecar.Frontmatter

/-!
# The metadata of an image, read back

Whatever fields an image has, its metadata can be written, and what is written can be read.  The
value of a tag is then where it was: in the mapping for the directory of the tag.  Only values with
floating-point numbers may have become others.

* `legible_flatten` says that the metadata of an image is legible, and `exists_render_flatten` what
  is read from its sidecar;
* `valueOf?` looks for the value of a tag in metadata, and `valueOf?_rereadEntries` finds there what
  the last field of the tag says.
-/

namespace Sidecars.Exif

open Yaml (Value Entries Legible rereadItems rereadEntries)

variable {fields : List Field} {f : Field} {t : Tag} {es : Entries} {v : Value} {vs : List Value}
  {key : String}

/-! ## The metadata is legible -/

/-- A list of values that hold no others nests once, or not at all. -/
lemma legible_collapse (h : ∀ v ∈ vs, ∀ depth, Legible depth v) (depth : Nat) :
    Legible (depth + 1) (collapse vs) := by
  unfold collapse
  split
  · exact h _ (by simp) _
  · exact .sequence fun v hv => h v hv depth

lemma legible_nat {n k : Nat} (hk : k ≤ 32) (h : n < 2 ^ k) (depth : Nat) :
    Legible depth (.int n) := by
  have hlimit : 2 ^ k ≤ 2 ^ 32 := Nat.pow_le_pow_right Nat.two_pos hk
  exact .int depth (by omega) (by omega)

lemma legible_int {n : Int} {k : Nat} (hk : k < 32) (hlow : -2 ^ k ≤ n) (hhigh : n < 2 ^ k)
    (depth : Nat) : Legible depth (.int n) := by
  have hlimit : (2 : Int) ^ k ≤ 2 ^ 31 := by
    exact_mod_cast Nat.pow_le_pow_right Nat.two_pos (Nat.le_of_lt_succ hk)
  exact .int depth (by omega) (by omega)

lemma legible_metadataValue (f : Field) (depth : Nat) : Legible (depth + 1) f.metadataValue := by
  have hlist {α : Type} {shown : α → Value} (h : ∀ x depth, Legible depth (shown x))
      (xs : List α) : Legible (depth + 1) (collapse (xs.map shown)) := by
    refine legible_collapse (fun v hv => ?_) depth
    obtain ⟨x, -, rfl⟩ := List.mem_map.1 hv
    exact h x
  obtain ⟨tag, image, value⟩ := f
  cases value with
  | texts lines => exact hlist (fun l depth => .string depth _) lines
  | bytes xs => exact hlist (fun n => legible_nat (by decide) n.toNat_lt) xs
  | shorts xs => exact hlist (fun n => legible_nat (by decide) n.toNat_lt) xs
  | longs xs => exact hlist (fun n => legible_nat (by decide) n.toNat_lt) xs
  | signedBytes xs => exact hlist (fun n => legible_int (by decide) n.le_toInt n.toInt_lt) xs
  | signedShorts xs => exact hlist (fun n => legible_int (by decide) n.le_toInt n.toInt_lt) xs
  | signedLongs xs => exact hlist (fun n => legible_int (by decide) n.le_toInt n.toInt_lt) xs
  | ratios xs => exact hlist (fun r depth => .string depth _) xs
  | signedRatios xs => exact hlist (fun r depth => .string depth _) xs
  | singles xs => exact hlist (fun bits depth => .float depth _) xs
  | doubles xs => exact hlist (fun bits depth => .float depth _) xs
  | undefined bs => exact .string _ _
  | unknown kind count offset => exact .string _ _

lemma mem_rows_iff {e : Value × Value} :
    e ∈ rows fields ↔ ∃ t f, t ∈ tagsOf fields ∧ last? fields t = some f ∧ f.row = e := by
  simp only [rows, List.mem_filterMap, Option.map_eq_some_iff]
  constructor
  · rintro ⟨t, ht, f, hf, rfl⟩
    exact ⟨t, f, ht, hf, rfl⟩
  · rintro ⟨t, f, ht, hf, rfl⟩
    exact ⟨t, ht, f, hf, rfl⟩

/-- The keys of rows are texts. -/
lemma exists_string_of_mem_rows : ∀ e ∈ rows fields, ∃ s, e.1 = .string s := by
  intro e he
  obtain ⟨t, f, -, -, rfl⟩ := mem_rows_iff.1 he
  exact ⟨_, rfl⟩

lemma legible_rows (fields : List Field) (depth : Nat) :
    Legible (depth + 2) (.mapping (rows fields)) := by
  refine .mapping exists_string_of_mem_rows (rows_keys_nodup fields) fun e he => ?_
  obtain ⟨t, f, -, -, rfl⟩ := mem_rows_iff.1 he
  exact legible_metadataValue f depth

lemma mem_nested_iff {e : Value × Value} :
    e ∈ nested key fields ↔ fields ≠ [] ∧ e = (.string key, .mapping (rows fields)) := by
  unfold nested
  split
  · next h => simp [h]
  · next h => simp [h]

/-- What stands in the metadata of an image is a row, or a mapping of rows. -/
lemma mem_flatten {e : Value × Value} (h : e ∈ flatten fields) :
    e ∈ rows (topFields fields) ∨ ∃ key part, e = (.string key, .mapping (rows part)) := by
  rw [flatten_eq, List.mem_append, List.mem_append] at h
  rcases h with (h | h) | h
  · exact .inl h
  · exact .inr ⟨_, _, (mem_nested_iff.1 h).2⟩
  · exact .inr ⟨_, _, (mem_nested_iff.1 h).2⟩

lemma exists_string_of_mem_flatten : ∀ e ∈ flatten fields, ∃ s, e.1 = .string s := by
  intro e he
  rcases mem_flatten he with he | ⟨key, part, rfl⟩
  · exact exists_string_of_mem_rows e he
  · exact ⟨key, rfl⟩

/-- The metadata of an image is legible, and nests three deep at most. -/
theorem legible_flatten (fields : List Field) (depth : Nat) :
    Legible (depth + 3) (.mapping (flatten fields)) := by
  refine .mapping exists_string_of_mem_flatten (flatten_keys_nodup fields) fun e he => ?_
  rcases mem_flatten he with he | ⟨key, part, rfl⟩
  · obtain ⟨t, f, -, -, rfl⟩ := mem_rows_iff.1 he
    exact legible_metadataValue f (depth + 1)
  · exact legible_rows part depth

/-- The metadata of an image is written, and read back from any file that holds what was written. -/
theorem exists_render_flatten (fields : List Field) :
    ∃ text, Frontmatter.render (flatten fields) = .ok text ∧
      ∀ fs p, fs.read p = .ok (Text.Utf8.encode text) →
        Sidecar.read fs p = .ok (rereadEntries (flatten fields)) := by
  have hlegible := legible_flatten fields 124
  refine ⟨_, by rw [Frontmatter.render, Frontmatter.renderChars_of_legible hlegible]; rfl, ?_⟩
  intro fs p hread
  rw [Sidecar.read, hread, Text.Utf8.encode, String.toList_ofList]
  exact Sidecar.ofContents_of_legible hlegible p

/-! ## The value of a tag -/

/-- What a key is bound to, the mapping as it is read back binds to what that is read back as. -/
lemma get?_rereadEntries (hkeys : ∀ e ∈ es, ∃ s, e.1 = .string s)
    (hnodup : (es.map Prod.fst).Nodup) (hmem : (.string key, v) ∈ es) :
    Entries.get? (rereadEntries es) (.string key) = some v.reread := by
  induction es with
  | nil => cases hmem
  | cons e es ih =>
    obtain ⟨k, w⟩ := e
    obtain ⟨s, rfl⟩ : ∃ s, k = .string s := hkeys (k, w) (by simp)
    rw [List.map_cons, List.nodup_cons] at hnodup
    by_cases hkey : s = key
    · subst hkey
      -- the key is not bound again
      have hw : v = w := by
        rcases List.mem_cons.1 hmem with h | h
        · exact (Prod.mk.inj h).2
        · exact absurd (List.mem_map_of_mem (f := Prod.fst) h) hnodup.1
      simp [rereadEntries, Entries.get?, Value.same, hw]
    · have hrest : (.string key, v) ∈ es := by
        rcases List.mem_cons.1 hmem with h | h
        · exact absurd (Value.string.inj (Prod.mk.inj h).1).symm hkey
        · exact h
      have hget := ih (fun e he => hkeys e (by simp [he])) hnodup.2 hrest
      rw [rereadEntries, Entries.get?, List.find?_cons_of_neg (by simp [Value.same, hkey])]
      exact hget

/-- The value of a tag in metadata: at the top, or in the mapping for the directory of the tag. -/
def valueOf? (m : Metadata) (t : Tag) : Option Value :=
  match t.context with
  | .gps => (Entries.get? m (.string gpsKey)).bind (·.field? t.name)
  | .interop => (Entries.get? m (.string interopKey)).bind (·.field? t.name)
  | .tiff | .exif => Entries.get? m (.string t.name)

/-- The last field of a tag is also the last one in a part that has all fields of the tag. -/
lemma last?_filter {keep : Field → Bool} (h : last? fields t = some f)
    (hkeep : ∀ g, g.tag = t → keep g = true) : last? (fields.filter keep) t = some f := by
  unfold last? at h ⊢
  rw [← List.filter_reverse, List.find?_filter]
  rw [← h]
  congr 1
  funext g
  by_cases hg : g.tag = t
  · simp [hg, hkeep g hg]
  · simp [hg]

lemma row_mem_rows (h : last? fields t = some f) : f.row ∈ rows fields := by
  refine mem_rows_iff.2 ⟨t, f, mem_tagsOf.2 ⟨f, ?_, tag_of_last? h⟩, h, rfl⟩
  exact List.mem_reverse.1 (List.mem_of_find?_eq_some h)

/-- In the mapping of some fields as it is read back, a tag has the value of its last field. -/
lemma field?_rows (h : last? fields t = some f) :
    (Value.mapping (rows fields)).reread.field? t.name = some f.metadataValue.reread := by
  have hrow : (.string t.name, f.metadataValue) ∈ rows fields := by
    rw [← tag_of_last? h]
    exact row_mem_rows h
  exact get?_rereadEntries exists_string_of_mem_rows (rows_keys_nodup fields) hrow

/-- In the metadata of an image as it is read back, a tag has the value of its last field about the
image itself. -/
theorem valueOf?_rereadEntries (h : last? (primary fields) t = some f) :
    valueOf? (rereadEntries (flatten fields)) t = some f.metadataValue.reread := by
  have hget {key : String} {v : Value} (hmem : (.string key, v) ∈ flatten fields) :
      Entries.get? (rereadEntries (flatten fields)) (.string key) = some v.reread :=
    get?_rereadEntries exists_string_of_mem_flatten (flatten_keys_nodup fields) hmem
  -- what is nested has a field, so there is a mapping for it
  have hnested {key : String} {part : List Field} (hpart : last? part t = some f)
      (hmem : nested key part ⊆ flatten fields) :
      (Entries.get? (rereadEntries (flatten fields)) (.string key)).bind (·.field? t.name) =
        some f.metadataValue.reread := by
    have hne : part ≠ [] := by
      rintro rfl
      cases hpart
    rw [hget (hmem (mem_nested_iff.2 ⟨hne, rfl⟩)), Option.bind_some, field?_rows hpart]
  have htop (hcontext : t.context ≠ .gps ∧ t.context ≠ .interop) :
      Entries.get? (rereadEntries (flatten fields)) (.string t.name) =
        some f.metadataValue.reread := by
    refine hget ?_
    have hlast : last? (topFields fields) t = some f :=
      last?_filter h fun g hg => by simp [hg, hcontext]
    rw [flatten_eq, ← tag_of_last? h]
    exact List.mem_append_left _ (List.mem_append_left _ (row_mem_rows hlast))
  unfold valueOf?
  cases hcontext : t.context with
  | tiff => exact htop (by simp [hcontext])
  | exif => exact htop (by simp [hcontext])
  | gps =>
    have hlast : last? (gpsFields fields) t = some f :=
      last?_filter h fun g hg => by simp [hg, hcontext]
    refine hnested hlast fun e he => ?_
    rw [flatten_eq]
    exact List.mem_append_left _ (List.mem_append_right _ he)
  | interop =>
    have hlast : last? (interopFields fields) t = some f :=
      last?_filter h fun g hg => by simp [hg, hcontext]
    refine hnested hlast fun e he => ?_
    rw [flatten_eq]
    exact List.mem_append_right _ he

end Sidecars.Exif
