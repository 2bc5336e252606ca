import Mathlib.Data.List.Induction
import Sidecars.Dispatch
import Sidecars.Proofs.Exif.Names

/-!
# What becomes of the fields of an image

The fields about the image itself become metadata without any loss: each tag has one entry, where
it occurs first, with the value of its last field.  Fields about other images of the file do not
matter.

* `rows` is the mapping that some fields have to become, and `gather_eq_rows` says that they do;
* `nest_eq_append` puts the nested mappings behind it;
* `flatten_faithful` is the metadata of all fields, and what an image with these fields gives.
-/

namespace Sidecars.Exif

open Yaml (Value Entries)

variable {fields : List Field} {ts : List Tag} {es inner : Entries} {f : Field} {t : Tag}
  {key : String}

/-! ## What is wanted -/

/-- The tags of some fields, each once, by first occurrence. -/
def tagsOf (fields : List Field) : List Tag := (fields.map Field.tag).eraseDups

/-- The last field of a tag. -/
def last? (fields : List Field) (t : Tag) : Option Field := fields.reverse.find? (·.tag = t)

/-- The entry of a field. -/
def Field.row (f : Field) : Value × Value := (.string f.tag.name, f.metadataValue)

/-- One entry for each tag, made from the last of its fields. -/
def rows (fields : List Field) : Entries :=
  (tagsOf fields).filterMap fun t => (last? fields t).map Field.row

/-- The fields about the image itself. -/
def primary (fields : List Field) : List Field := fields.filter (·.image = 0)

/-- The fields about the image itself that stand in the mapping around the others. -/
def topFields (fields : List Field) : List Field :=
  (primary fields).filter fun f => f.tag.context ≠ .gps && f.tag.context ≠ .interop

/-- The fields on the position of the image itself. -/
def gpsFields (fields : List Field) : List Field :=
  (primary fields).filter (·.tag.context = .gps)

/-- The fields on interoperability of the image itself. -/
def interopFields (fields : List Field) : List Field :=
  (primary fields).filter (·.tag.context = .interop)

/-! ## Tags and their last fields -/

lemma mem_tagsOf : t ∈ tagsOf fields ↔ ∃ f ∈ fields, f.tag = t := by
  rw [tagsOf, List.mem_eraseDups, List.mem_map]

lemma tagsOf_concat (fields : List Field) (f : Field) :
    tagsOf (fields ++ [f]) =
      if f.tag ∈ tagsOf fields then tagsOf fields else tagsOf fields ++ [f.tag] := by
  have hmem : f.tag ∈ tagsOf fields ↔ f.tag ∈ fields.map Field.tag := List.mem_eraseDups
  rw [tagsOf, List.map_append, List.eraseDups_append, ← tagsOf]
  rw [List.map_singleton, List.removeAll, List.filter_singleton, List.elem_eq_contains]
  by_cases h : f.tag ∈ fields.map Field.tag
  · have hknown : (fields.map Field.tag).contains f.tag = true := List.contains_iff_mem.2 h
    rw [if_pos (hmem.2 h), hknown]
    simp
  · have hnew : (fields.map Field.tag).contains f.tag = false := by simpa using h
    rw [if_neg (fun hold => h (hmem.1 hold)), hnew]
    rfl

lemma tagsOf_nodup (fields : List Field) : (tagsOf fields).Nodup := by
  induction fields using List.reverseRecOn with
  | nil => exact List.nodup_nil
  | append_singleton fields f ih =>
    rw [tagsOf_concat]
    split
    · exact ih
    · rename_i hnew
      exact List.nodup_append.2 ⟨ih, List.nodup_singleton _, fun t ht u hu htu => by
        rw [List.mem_singleton.1 hu] at htu
        exact hnew (htu ▸ ht)⟩

lemma last?_concat (fields : List Field) (f : Field) (t : Tag) :
    last? (fields ++ [f]) t = if f.tag = t then some f else last? fields t := by
  rw [last?, List.reverse_concat, List.find?_cons]
  by_cases h : f.tag = t
  · simp [h]
  · simp [h, last?]

lemma tag_of_last? (h : last? fields t = some f) : f.tag = t := by
  simpa using List.find?_some h

/-- A tag that occurs has a last field. -/
lemma exists_last? (h : t ∈ tagsOf fields) : ∃ f, last? fields t = some f ∧ f.tag = t := by
  obtain ⟨f, hf, hft⟩ := mem_tagsOf.1 h
  have hsome : (last? fields t).isSome = true := by
    rw [last?, List.find?_isSome]
    exact ⟨f, List.mem_reverse.2 hf, by simpa using hft⟩
  obtain ⟨g, hg⟩ := Option.isSome_iff_exists.1 hsome
  exact ⟨g, hg, tag_of_last? hg⟩

/-! ## One mapping -/

/-- The keys are the names of the tags. -/
lemma map_fst_rows (fields : List Field) :
    (rows fields).map Prod.fst = ((tagsOf fields).map Tag.name).map Value.string := by
  rw [rows, List.map_filterMap, List.map_map, ← List.filterMap_eq_map]
  refine List.filterMap_congr fun t ht => ?_
  obtain ⟨f, hf, hft⟩ := exists_last? ht
  rw [hf, Option.map_some, Option.map_some, Field.row, hft]
  rfl

lemma rows_keys_nodup (fields : List Field) : ((rows fields).map Prod.fst).Nodup := by
  rw [map_fst_rows]
  exact ((tagsOf_nodup fields).map Tag.name_injective).map fun _ _ => Value.string.inj

/-- Binding the name of a tag, among entries that have one for each of some tags. -/
lemma insert_filterMap {row : Tag → Option (Value × Value)} (hts : ts.Nodup)
    (hrow : ∀ t ∈ ts, ∃ v, row t = some (.string t.name, v)) (a : Tag) (v : Value) :
    Entries.insert (ts.filterMap row) (.string a.name) v =
      (if a ∈ ts then ts else ts ++ [a]).filterMap fun t =>
        if a = t then some (.string a.name, v) else row t := by
  induction ts with
  | nil => simp [Entries.insert]
  | cons t ts ih =>
    obtain ⟨hnotMem, hnodup⟩ := List.nodup_cons.1 hts
    obtain ⟨w, hw⟩ := hrow t List.mem_cons_self
    have hrest := ih hnodup fun u hu => hrow u (List.mem_cons_of_mem t hu)
    rw [List.filterMap_cons_some hw, Entries.insert]
    by_cases hname : a = t
    · -- its entry is here and nowhere else
      subst hname
      have hsame : ts.filterMap (fun u => if a = u then some (.string a.name, v) else row u) =
          ts.filterMap row := by
        refine List.filterMap_congr fun u hu => if_neg ?_
        rintro rfl
        exact hnotMem hu
      simp [Value.same, hsame]
    · -- the entry of another tag is passed over
      have hdifferent : t.name ≠ a.name := fun h => hname (Tag.name_injective h).symm
      have hkey : (Value.string t.name).same (.string a.name) = false := by
        simp [Value.same, hdifferent]
      rw [if_neg (by simp [hkey]), hrest]
      by_cases hmem : a ∈ ts
      · simp [hmem, hname, hw]
      · simp [hmem, hname, hw]

/-- One field more. -/
lemma rows_concat (fields : List Field) (f : Field) :
    rows (fields ++ [f]) = Entries.insert (rows fields) (.string f.tag.name) f.metadataValue := by
  have hrow : ∀ t ∈ tagsOf fields,
      ∃ v, (last? fields t).map Field.row = some (.string t.name, v) := by
    intro t ht
    obtain ⟨g, hg, hgt⟩ := exists_last? ht
    exact ⟨g.metadataValue, by rw [hg, Option.map_some, Field.row, hgt]⟩
  rw [rows, rows, insert_filterMap (tagsOf_nodup fields) hrow, tagsOf_concat]
  refine List.filterMap_congr fun t _ => ?_
  -- the new field is the last one of its own tag, and of no other
  rw [last?_concat]
  split
  · rfl
  · rfl

/-- The mapping of some fields has one entry for each of their tags. -/
theorem gather_eq_rows (fields : List Field) : gather fields = rows fields := by
  -- fields are inserted in their order, so the last one is peeled off
  induction fields using List.reverseRecOn with
  | nil => rfl
  | append_singleton fields f ih =>
    rw [rows_concat, ← ih]
    simp [gather, Entries.ofPairs, List.foldl_append]

lemma rows_eq_nil_iff : rows fields = [] ↔ fields = [] := by
  constructor
  · intro h
    by_contra hne
    obtain ⟨f, rest, rfl⟩ := List.exists_cons_of_ne_nil hne
    have hmem : f.tag ∈ tagsOf (f :: rest) := mem_tagsOf.2 ⟨f, List.mem_cons_self, rfl⟩
    obtain ⟨g, hg, -⟩ := exists_last? hmem
    have hnone := List.filterMap_eq_nil_iff.1 h f.tag hmem
    simp [hg] at hnone
  · rintro rfl
    rfl

/-! ## Nested mappings -/

/-- The entry of a nested mapping, if there is a field for it. -/
def nested (key : String) (fields : List Field) : Entries :=
  if fields = [] then [] else [(.string key, .mapping (rows fields))]

/-- A new key is bound at the end. -/
lemma insert_of_notMem {v : Value} {names : List String}
    (hes : es.map Prod.fst = names.map Value.string) (h : key ∉ names) :
    Entries.insert es (.string key) v = es ++ [(.string key, v)] := by
  induction es generalizing names with
  | nil => rfl
  | cons e es ih =>
    cases names with
    | nil => cases hes
    | cons name names =>
      obtain ⟨hname, hrest⟩ := List.cons.inj hes
      have hdifferent : name ≠ key := fun hsame => h (hsame ▸ List.mem_cons_self)
      have hes' := ih hrest fun hmem => h (List.mem_cons_of_mem name hmem)
      rw [Entries.insert, hname, if_neg (by simp [Value.same, hdifferent]), hes']
      rfl

lemma nest_eq_append {names : List String} (hes : es.map Prod.fst = names.map Value.string)
    (h : key ∉ names) (fields : List Field) :
    nest es key (gather fields) = es ++ nested key fields := by
  rw [gather_eq_rows, nest, nested]
  by_cases hfields : fields = []
  · rw [if_pos (rows_eq_nil_iff.2 hfields), if_pos hfields, List.append_nil]
  · rw [if_neg fun hrows => hfields (rows_eq_nil_iff.1 hrows), if_neg hfields,
      insert_of_notMem hes h]

/-- The keys of a nested mapping's entry. -/
def keysOf (key : String) (fields : List Field) : List String := if fields = [] then [] else [key]

lemma map_fst_nested (key : String) (fields : List Field) :
    (nested key fields).map Prod.fst = (keysOf key fields).map Value.string := by
  rw [nested, keysOf]
  split
  · rfl
  · rfl

lemma mem_keysOf {key other : String} (h : other ∈ keysOf key fields) : other = key := by
  rw [keysOf] at h
  split at h
  · cases h
  · exact List.mem_singleton.1 h

/-! ## Metadata -/

/-- The names under which the fields stand at the top. -/
def topNames (fields : List Field) : List String := (tagsOf (topFields fields)).map Tag.name

lemma gpsKey_notMem (fields : List Field) : gpsKey ∉ topNames fields := by
  intro hmem
  obtain ⟨t, -, ht⟩ := List.mem_map.1 hmem
  exact t.name_ne_nestedKey (by simp [ht, nestedKeys])

lemma interopKey_notMem (fields : List Field) :
    interopKey ∉ topNames fields ++ keysOf gpsKey (gpsFields fields) := by
  intro hmem
  rcases List.mem_append.1 hmem with hmem | hmem
  · obtain ⟨t, -, ht⟩ := List.mem_map.1 hmem
    exact t.name_ne_nestedKey (by simp [ht, nestedKeys])
  · exact absurd (mem_keysOf hmem) (by decide)

lemma flatten_eq (fields : List Field) :
    flatten fields = rows (topFields fields) ++ nested gpsKey (gpsFields fields) ++
      nested interopKey (interopFields fields) := by
  have htop := map_fst_rows (topFields fields)
  have hgps : (rows (topFields fields) ++ nested gpsKey (gpsFields fields)).map Prod.fst =
      (topNames fields ++ keysOf gpsKey (gpsFields fields)).map Value.string := by
    rw [List.map_append, List.map_append, htop, map_fst_nested, topNames]
  show nest (nest (gather (topFields fields)) gpsKey (gather (gpsFields fields))) interopKey
    (gather (interopFields fields)) = _
  rw [gather_eq_rows (topFields fields), nest_eq_append htop (gpsKey_notMem fields),
    nest_eq_append hgps (interopKey_notMem fields)]

/-- No key of the metadata is bound twice. -/
lemma flatten_keys_nodup (fields : List Field) : ((flatten fields).map Prod.fst).Nodup := by
  have hkeys : (flatten fields).map Prod.fst =
      (topNames fields ++ keysOf gpsKey (gpsFields fields) ++
        keysOf interopKey (interopFields fields)).map Value.string := by
    simp only [flatten_eq, List.map_append, map_fst_rows, map_fst_nested, topNames]
  have hsingle (key : String) (part : List Field) : (keysOf key part).Nodup := by
    rw [keysOf]
    split
    · exact List.nodup_nil
    · exact List.nodup_singleton key
  have htop : (topNames fields).Nodup := (tagsOf_nodup _).map Tag.name_injective
  rw [hkeys]
  refine List.Nodup.map (fun _ _ => Value.string.inj) ?_
  refine (htop.append (hsingle _ _) ?_).append (hsingle _ _) ?_
  · intro name hname hgps
    rw [mem_keysOf hgps] at hname
    exact gpsKey_notMem fields hname
  · intro name hname hinterop
    rw [mem_keysOf hinterop] at hname
    exact interopKey_notMem fields hname

/-- Nothing is lost: only an image without fields has no metadata. -/
lemma flatten_eq_nil_iff : flatten fields = [] ↔ primary fields = [] := by
  have hnested (key : String) (part : List Field) : nested key part = [] ↔ part = [] := by
    rw [nested]
    split
    · rename_i h
      simp [h]
    · rename_i h
      simp [h]
  rw [flatten_eq, List.append_eq_nil_iff, List.append_eq_nil_iff, rows_eq_nil_iff, hnested, hnested,
    topFields, gpsFields, interopFields]
  constructor
  · rintro ⟨⟨htop, hgps⟩, hinterop⟩
    -- a field in none of the three parts would be at the top
    by_contra hne
    obtain ⟨f, rest, hf⟩ := List.exists_cons_of_ne_nil hne
    have hmem : f ∈ primary fields := by simp [hf]
    have h₁ := List.filter_eq_nil_iff.1 htop f hmem
    have h₂ := List.filter_eq_nil_iff.1 hgps f hmem
    have h₃ := List.filter_eq_nil_iff.1 hinterop f hmem
    simp_all
  · intro h
    simp [h]

/-! ## Images -/

variable {file block : Bytes}

/-- What an image with a block has for metadata. -/
lemma metadata?_of_readFields (hblock : block? file = .ok (some block))
    (hfields : Tiff.readFields block = .ok fields) :
    metadata? file = .ok (if primary fields = [] then none else some (flatten fields)) := by
  simp [metadata?, hblock, hfields, flatten_eq_nil_iff, Bind.bind, Except.bind, pure, Except.pure]

/-- An image never has metadata without anything in it. -/
lemma metadata?_ne_nil (file : Bytes) : metadata? file ≠ .ok (some []) := by
  intro h
  cases hblock : block? file with
  | error e => simp [metadata?, hblock, Bind.bind, Except.bind] at h
  | ok found =>
    cases found with
    | none => simp [metadata?, hblock, Bind.bind, Except.bind, pure, Except.pure] at h
    | some block =>
      cases hfields : Tiff.readFields block with
      | error e => simp [metadata?, hblock, hfields, Bind.bind, Except.bind] at h
      | ok fields =>
        rw [metadata?_of_readFields hblock hfields, Except.ok.injEq] at h
        split at h
        · cases h
        · rename_i hprimary
          exact hprimary (flatten_eq_nil_iff.1 (Option.some.inj h))

lemma imageExtractor_ne_nil (fs : FileSystem) (p : Path) :
    imageExtractor fs p ≠ .ok (.metadata []) := by
  intro h
  rw [imageExtractor] at h
  split at h
  · cases h
  · rename_i file _
    split at h
    · cases h
    · split at h
      · cases h
      · cases h
      · rename_i m hm
        obtain rfl : m = [] := by simpa using h
        exact metadata?_ne_nil file hm

/-- The metadata of an image holds what the fields about the image itself say, and nothing else.
At the top there is one entry for each tag outside the two nested directories, by first occurrence,
with the value of the last field of the tag; then there are the mappings of the nested directories,
if they have fields, made in the same way.  No two tags have one name, and none has the name of a
nested mapping, so no entry takes the place of another.  Fields about other images do not matter,
and an image without fields of its own has no metadata, which is not the same as empty metadata. -/
theorem flatten_faithful (fields : List Field) :
    flatten fields = rows (topFields fields) ++ nested gpsKey (gpsFields fields) ++
        nested interopKey (interopFields fields) ∧
      ((flatten fields).map Prod.fst).Nodup ∧
      (∀ part ∈ [topFields fields, gpsFields fields, interopFields fields],
        (rows part).map Prod.fst = ((tagsOf part).map Tag.name).map Value.string ∧
          ((rows part).map Prod.fst).Nodup) ∧
      (∀ f ∈ fields, f.tag.name ∉ [gpsKey, interopKey] ∧
        ∀ g ∈ fields, f.tag ≠ g.tag → f.tag.name ≠ g.tag.name) ∧
      (∀ others, primary others = primary fields → flatten others = flatten fields) ∧
      (flatten fields = [] ↔ primary fields = []) ∧
      ∀ fs p, imageExtractor fs p ≠ .ok (.metadata []) ∧
        ∀ file block, fs.read p = .ok file → Container.isBlockless file = false →
          block? file = .ok (some block) → Tiff.readFields block = .ok fields →
          imageExtractor fs p =
            .ok (if primary fields = [] then .nothing else .metadata (flatten fields)) := by
  refine ⟨flatten_eq fields, flatten_keys_nodup fields, ?_, ?_, ?_, flatten_eq_nil_iff, ?_⟩
  · intro part _
    exact ⟨map_fst_rows part, rows_keys_nodup part⟩
  · intro f _
    exact ⟨f.tag.name_ne_nestedKey, fun g _ htags hnames => htags (Tag.name_injective hnames)⟩
  · intro others hothers
    simp only [flatten_eq, topFields, gpsFields, interopFields, hothers]
  · intro fs p
    refine ⟨imageExtractor_ne_nil fs p, ?_⟩
    intro file block hread hkind hblock hfields
    simp only [imageExtractor, hread, hkind, metadata?_of_readFields hblock hfields]
    by_cases hprimary : primary fields = []
    · simp [hprimary]
    · simp [hprimary]

/-! ## A thumbnail -/

/-- The maker of a thumbnail. -/
def thumbnailMaker : Field := ⟨⟨.tiff, 0x010F⟩, 1, .texts [[0x41]]⟩

/-- TIFF data with a field about its second image only. -/
def thumbnailBlock : Bytes :=
  [0x4D, 0x4D, 0x00, 0x2A, 0x00, 0x00, 0x00, 0x08,
    0x00, 0x00, 0x00, 0x00, 0x00, 0x0E,
    0x00, 0x01, 0x01, 0x0F, 0x00, 0x02, 0x00, 0x00, 0x00, 0x02, 0x41, 0x00, 0x00, 0x00,
    0x00, 0x00, 0x00, 0x00]

/-- The path `small.jpg`. -/
def thumbnailPath : Path := ⟨Binary.ascii "small.jpg"⟩

/-- A file system with this image. -/
def thumbnailSystem : FileSystem where
  root := .directory 0o755 [(⟨thumbnailPath.bytes, by decide⟩, .file 0o644 thumbnailBlock)]
  current := []
  umask := 0o022

/-- The image has no metadata, though its thumbnail has a maker. -/
theorem flatten_faithful_thumbnail :
    Tiff.readFields thumbnailBlock = .ok [thumbnailMaker] ∧
      imageExtractor thumbnailSystem thumbnailPath = .ok .nothing := by
  obtain ⟨-, -, -, -, -, -, himage⟩ := flatten_faithful [thumbnailMaker]
  have hread : thumbnailSystem.read thumbnailPath = .ok thumbnailBlock := by decide +kernel
  have hblock : block? thumbnailBlock = .ok (some thumbnailBlock) := by decide +kernel
  have hfields : Tiff.readFields thumbnailBlock = .ok [thumbnailMaker] := by decide +kernel
  refine ⟨hfields, ?_⟩
  rw [(himage _ _).2 _ _ hread (by decide +kernel) hblock hfields]
  rfl

end Sidecars.Exif
