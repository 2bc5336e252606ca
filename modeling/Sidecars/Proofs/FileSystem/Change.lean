import Sidecars.Proofs.FileSystem.Resolve

/-!
# What a change leads to

`FileSystem.Becomes fs loc e fs'` says that `fs'` is `fs` with `e` at the location `loc`, as far as
anyone can tell who looks at the entries.  Each change makes a file system become another one in
this sense, and changes at one place after the other become one change.
-/

namespace Sidecars

namespace FileSystem

/-- A file system after what stands at one location has become something else. -/
structure Becomes (fs : FileSystem) (loc : Location) (e : Option Entry) (fs' : FileSystem) :
    Prop where
  current : fs'.current = fs.current
  umask : fs'.umask = fs.umask
  chance : fs'.chance = fs.chance
  entry : ∀ l, fs'.entryAt? l = if l = loc then e else fs.entryAt? l

/-- Two file systems in which the same stands everywhere. -/
structure SameEntries (fs fs' : FileSystem) : Prop where
  current : fs'.current = fs.current
  umask : fs'.umask = fs.umask
  chance : fs'.chance = fs.chance
  entry : ∀ l, fs'.entryAt? l = fs.entryAt? l

lemma SameEntries.refl (fs : FileSystem) : fs.SameEntries fs := ⟨rfl, rfl, rfl, fun _ => rfl⟩

namespace Becomes

variable {fs fs' fs'' : FileSystem} {loc other : Location} {e e' : Option Entry}

lemma entry_self (h : fs.Becomes loc e fs') : fs'.entryAt? loc = e := by
  rw [h.entry, if_pos rfl]

lemma self (fs : FileSystem) (loc : Location) : fs.Becomes loc (fs.entryAt? loc) fs := by
  refine ⟨rfl, rfl, rfl, fun l => ?_⟩
  split
  · next hl => rw [hl]
  · rfl

lemma entry_of_ne (h : fs.Becomes loc e fs') (hne : other ≠ loc) :
    fs'.entryAt? other = fs.entryAt? other := by
  rw [h.entry, if_neg hne]

/-- Nothing has happened where what was there is there again. -/
lemma sameEntries (h : fs.Becomes loc e fs') (he : fs.entryAt? loc = e) : fs.SameEntries fs' := by
  refine ⟨h.current, h.umask, h.chance, fun l => ?_⟩
  rw [h.entry]
  split
  · next hl => rw [hl, he]
  · rfl

/-- The later change of one location counts. -/
lemma trans (h : fs.Becomes loc e fs') (h' : fs'.Becomes loc e' fs'') : fs.Becomes loc e' fs'' := by
  refine ⟨h'.current.trans h.current, h'.umask.trans h.umask, h'.chance.trans h.chance,
    fun l => ?_⟩
  rw [h'.entry, h.entry]
  split <;> rfl

lemma hasDirectory_iff_of_ne (h : fs.Becomes loc e fs') (hne : other ≠ loc) :
    fs'.HasDirectory other ↔ fs.HasDirectory other := by
  rw [HasDirectory, HasDirectory, h.entry_of_ne hne]

/-- A directory elsewhere stays when no directory is changed. -/
lemma hasDirectory (h : fs.Becomes loc e fs') (hold : ¬ fs.HasDirectory loc)
    (hdir : fs.HasDirectory other) : fs'.HasDirectory other :=
  (h.hasDirectory_iff_of_ne fun heq => hold (heq ▸ hdir)).2 hdir

end Becomes

/-! ## Single changes -/

variable {fs : FileSystem} {place : Place}

lemma not_hasDirectory_of_entry {e : Entry} {loc : Location} (h : fs.entryAt? loc = some e)
    (he : ∀ mode, e ≠ .directory mode) : ¬ fs.HasDirectory loc := by
  rintro ⟨mode, hdir⟩
  rw [h, Option.some.injEq] at hdir
  exact he mode hdir

lemma not_hasDirectory_of_none {loc : Location} (h : fs.entryAt? loc = none) :
    ¬ fs.HasDirectory loc := by
  rintro ⟨mode, hdir⟩
  rw [h] at hdir
  simp at hdir

theorem becomes_put (mode : Nat) (contents : Bytes) (hdir : fs.HasDirectory place.directory)
    (hold : ¬ fs.HasDirectory place.location) :
    fs.Becomes place.location (some (.file mode contents)) (fs.put place (.file mode contents)) :=
  ⟨rfl, rfl, rfl, entryAt?_put (m := .file mode contents) hdir rfl hold⟩

theorem becomes_drop (hdir : fs.HasDirectory place.directory)
    (hold : ¬ fs.HasDirectory place.location) : fs.Becomes place.location none (fs.drop place) :=
  ⟨rfl, rfl, rfl, entryAt?_drop hdir hold⟩

lemma nodeOf?_of_file {mode : Nat} {contents : Bytes}
    (h : fs.entryAt? place.location = some (.file mode contents)) :
    fs.nodeOf? place = some (.file mode contents) := by
  rw [entryAt?_eq, Option.map_eq_some_iff] at h
  obtain ⟨n, hn, hentry⟩ := h
  rw [nodeOf?, hn]
  cases n <;> simp_all [Node.entry]

/-- A file that is changed as a file becomes what the change makes of it. -/
lemma becomes_modify {mode mode' : Nat} {contents contents' : Bytes} {change : Node → Node}
    (hfile : fs.entryAt? place.location = some (.file mode contents))
    (hchange : change (.file mode contents) = .file mode' contents') :
    fs.Becomes place.location (some (.file mode' contents')) (fs.modify place change) := by
  rw [modify, nodeOf?_of_file hfile]
  simp only [hchange]
  exact becomes_put mode' contents' (hasDirectory_of_below hfile)
    (not_hasDirectory_of_entry hfile fun _ => Entry.noConfusion)

lemma becomes_create {mode : Nat} (hdir : fs.HasDirectory place.directory)
    (hfree : fs.entryAt? place.location = none) :
    fs.Becomes place.location (some (.file mode [])) (fs.apply (.create place mode)) :=
  becomes_put mode [] hdir (not_hasDirectory_of_none hfree)

lemma becomes_setMode {mode mode' : Nat} {contents : Bytes}
    (hfile : fs.entryAt? place.location = some (.file mode contents)) :
    fs.Becomes place.location (some (.file mode' contents)) (fs.apply (.setMode place mode')) :=
  becomes_modify hfile rfl

lemma becomes_write {mode : Nat} {contents contents' : Bytes}
    (hfile : fs.entryAt? place.location = some (.file mode contents)) :
    fs.Becomes place.location (some (.file mode contents')) (fs.apply (.write place contents')) :=
  becomes_modify hfile rfl

end FileSystem
end Sidecars
