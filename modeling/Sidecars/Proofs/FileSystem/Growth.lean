import Mathlib.Data.Set.Insert
import Sidecars.Proofs.FileSystem.Change

/-!
# File systems that grow

While sidecars are written, a file system grows: at some locations, where no directory was, there
are regular files now, and everywhere else the same stands as before.  `FileSystem.Grown fs S fs'`
says so, `S` being the locations.

* Directories stay where they are (`Grown.hasDirectory_iff`), and a way to a directory that is there
  afterwards was there before (`Grown.embeds`).
* The other direction needs that no link was at a location of `S` (`Grown.embedded`).
-/

namespace Sidecars.FileSystem

/-- A file system after regular files have been put at some locations that are no directories. -/
structure Grown (fs : FileSystem) (S : Set Location) (fs' : FileSystem) : Prop where
  current : fs'.current = fs.current
  umask : fs'.umask = fs.umask
  chance : fs'.chance = fs.chance
  entry_of_notMem : ∀ l, l ∉ S → fs'.entryAt? l = fs.entryAt? l
  file_of_mem : ∀ l, l ∈ S → ∃ mode contents, fs'.entryAt? l = some (.file mode contents)
  old_of_mem : ∀ l, l ∈ S → ¬ fs.HasDirectory l

namespace Grown

variable {fs fs' fs'' : FileSystem} {S : Set Location}

lemma refl (fs : FileSystem) : fs.Grown ∅ fs where
  current := rfl
  umask := rfl
  chance := rfl
  entry_of_notMem _ _ := rfl
  file_of_mem _ h := absurd h (Set.notMem_empty _)
  old_of_mem _ h := absurd h (Set.notMem_empty _)

lemma sameEntries (h : fs.Grown S fs') (h' : fs'.SameEntries fs'') : fs.Grown S fs'' where
  current := h'.current.trans h.current
  umask := h'.umask.trans h.umask
  chance := h'.chance.trans h.chance
  entry_of_notMem l hl := (h'.entry l).trans (h.entry_of_notMem l hl)
  file_of_mem l hl := by
    rw [h'.entry]
    exact h.file_of_mem l hl
  old_of_mem := h.old_of_mem

/-- Directories are neither made nor lost. -/
theorem hasDirectory_iff (h : fs.Grown S fs') (l : Location) :
    fs'.HasDirectory l ↔ fs.HasDirectory l := by
  by_cases hl : l ∈ S
  · obtain ⟨mode, contents, hfile⟩ := h.file_of_mem l hl
    have hnew := not_hasDirectory_of_entry hfile fun _ => Entry.noConfusion
    exact ⟨fun hdir => absurd hdir hnew, fun hdir => absurd hdir (h.old_of_mem l hl)⟩
  · rw [HasDirectory, HasDirectory, h.entry_of_notMem l hl]

/-- One more regular file. -/
lemma insert {loc : Location} {mode : Nat} {contents : Bytes} (h : fs.Grown S fs')
    (h' : fs'.Becomes loc (some (.file mode contents)) fs'') (hold : ¬ fs'.HasDirectory loc) :
    fs.Grown (Insert.insert loc S) fs'' where
  current := h'.current.trans h.current
  umask := h'.umask.trans h.umask
  chance := h'.chance.trans h.chance
  entry_of_notMem l hl := by
    rw [Set.mem_insert_iff, not_or] at hl
    rw [h'.entry_of_ne hl.1, h.entry_of_notMem l hl.2]
  file_of_mem l hl := by
    by_cases heq : l = loc
    · exact ⟨mode, contents, by rw [heq, h'.entry_self]⟩
    · rw [h'.entry_of_ne heq]
      exact h.file_of_mem l (Set.mem_of_mem_insert_of_ne hl heq)
  old_of_mem l hl := by
    rcases Set.mem_insert_iff.1 hl with rfl | hl
    · rwa [h.hasDirectory_iff] at hold
    · exact h.old_of_mem l hl

lemma link_of_link (h : fs.Grown S fs') {l : Location} {target : Path}
    (hlink : fs'.entryAt? l = some (.link target)) : fs.entryAt? l = some (.link target) := by
  by_cases hl : l ∈ S
  · obtain ⟨mode, contents, hfile⟩ := h.file_of_mem l hl
    rw [hfile] at hlink
    simp at hlink
  · rwa [h.entry_of_notMem l hl] at hlink

/-- Where something stood, something stands. -/
lemma isSome_entryAt? (h : fs.Grown S fs') {l : Location} (hl : (fs.entryAt? l).isSome) :
    (fs'.entryAt? l).isSome := by
  by_cases hS : l ∈ S
  · obtain ⟨mode, contents, hfile⟩ := h.file_of_mem l hS
    simp [hfile]
  · rwa [h.entry_of_notMem l hS]

/-- Where a regular file stood, one stands. -/
lemma file_of_file (h : fs.Grown S fs') {l : Location} {mode : Nat} {contents : Bytes}
    (hl : fs.entryAt? l = some (.file mode contents)) :
    ∃ mode' contents', fs'.entryAt? l = some (.file mode' contents') := by
  by_cases hS : l ∈ S
  · exact h.file_of_mem l hS
  · exact ⟨mode, contents, by rwa [h.entry_of_notMem l hS]⟩

end Grown

lemma get?_link_iff {fs : FileSystem} {l : Location} {target : Path} :
    fs.root.get? l = some (.link target) ↔ fs.entryAt? l = some (.link target) := by
  rw [entryAt?_eq, Option.map_eq_some_iff]
  constructor
  · intro h
    exact ⟨_, h, rfl⟩
  · rintro ⟨n, hn, hentry⟩
    cases n <;> simp_all [Node.entry]

lemma embeds_of_entries {fs fs' : FileSystem}
    (hdir : ∀ l, fs.HasDirectory l → fs'.HasDirectory l)
    (hlink : ∀ l target, fs.entryAt? l = some (.link target) → fs'.entryAt? l = some (.link target)) :
    Embeds fs.root fs'.root where
  directory l n hn hd := hasDirectory_iff.1 (hdir l (hasDirectory_iff.2 ⟨n, hn, hd⟩))
  link l target h := get?_link_iff.2 (hlink l target (get?_link_iff.1 h))

namespace Grown

variable {fs fs' fs'' : FileSystem} {S : Set Location}

/-- The directories and links of the grown file system were there before. -/
theorem embeds (h : fs.Grown S fs') : Embeds fs'.root fs.root :=
  embeds_of_entries (fun l => (h.hasDirectory_iff l).1) fun _ _ => h.link_of_link

/-- The directories and links are still there if no file took the place of a link. -/
theorem embedded (h : fs.Grown S fs')
    (hlinks : ∀ l target, l ∈ S → fs.entryAt? l ≠ some (.link target)) :
    Embeds fs.root fs'.root := by
  refine embeds_of_entries (fun l => (h.hasDirectory_iff l).2) fun l target hlink => ?_
  rw [h.entry_of_notMem l fun hl => hlinks l target hl hlink]
  exact hlink

lemma origin_eq (h : fs.Grown S fs') (p : Path) : fs'.origin p = fs.origin p := by
  rw [origin, origin, h.current]

/-- A way to a directory in the grown file system is the same way as before. -/
lemma follow_back (h : fs.Grown S fs') {p : Path} {steps : List Path.Step} {l : Location}
    {n : Node}
    (hfollow : follow fs'.root true maxLinks (fs'.origin p) steps = .ok (.found l n))
    (hn : n.isDirectory = true) :
    ∃ m, follow fs.root true maxLinks (fs.origin p) steps = .ok (.found l m) ∧
      m.isDirectory = true := by
  rw [h.origin_eq] at hfollow
  exact follow_embeds h.embeds hfollow hn

end Grown

end Sidecars.FileSystem
