import Sidecars.Proofs.FileSystem.Undoing
import Sidecars.Proofs.Sidecar.Congruence

/-!
# Writes that are cut short

A sidecar is written in steps, and a crash may come after any of them.  Whatever the crash leaves,
nobody finds half a sidecar: only the temporary file is ever incomplete, and it takes the sidecar's
place when it is complete and has been brought to the disk.

* `FileSystem.Drafting.applyAll`: changes to a file that was not there before leave everything else
  alone, however many of them are made;
* `Survives` says what a crash may leave of some changes, contents that are not on the disk yet
  being cut short;
* `Interrupted` collects what is true of a write that was cut short, and
  `interrupted_of_survives` says that it is true after any crash.
-/

namespace Sidecars

namespace FileSystem

variable {fs fs' : FileSystem} {place : Place} {changes : List Change}

/-! ## A file in the making -/

/-- A file system in which at most a file has been added at a place. -/
def Drafting (fs : FileSystem) (place : Place) (fs' : FileSystem) : Prop :=
  ∃ e, fs.Becomes place.location e fs' ∧
    (e = none ∨ ∃ mode contents, e = some (.file mode contents))

lemma modify_of_none {change : Node → Node} (h : fs.entryAt? place.location = none) :
    fs.modify place change = fs := by
  rw [entryAt?_eq, Option.map_eq_none_iff] at h
  rw [modify, nodeOf?, h]

namespace Drafting

lemma refl (hfree : fs.entryAt? place.location = none) : fs.Drafting place fs :=
  ⟨_, .self fs place.location, .inl hfree⟩

lemma not_hasDirectory (h : fs.Drafting place fs') : ¬ fs'.HasDirectory place.location := by
  obtain ⟨e, hbecomes, rfl | ⟨mode, contents, rfl⟩⟩ := h
  · exact not_hasDirectory_of_none hbecomes.entry_self
  · exact not_hasDirectory_of_entry hbecomes.entry_self fun _ => Entry.noConfusion

lemma hasDirectory (h : fs.Drafting place fs') (hfree : fs.entryAt? place.location = none)
    (hdir : fs.HasDirectory place.directory) : fs'.HasDirectory place.directory := by
  obtain ⟨e, hbecomes, -⟩ := h
  exact hbecomes.hasDirectory (not_hasDirectory_of_none hfree) hdir

lemma modify (h : fs.Drafting place fs') {change : Node → Node}
    (hchange : ∀ mode contents, ∃ mode' contents',
      change (.file mode contents) = .file mode' contents') :
    fs.Drafting place (fs'.modify place change) := by
  obtain ⟨e, hbecomes, he⟩ := h
  rcases he with rfl | ⟨mode, contents, rfl⟩
  · rw [modify_of_none hbecomes.entry_self]
    exact ⟨none, hbecomes, .inl rfl⟩
  · obtain ⟨mode', contents', hfile⟩ := hchange mode contents
    exact ⟨_, hbecomes.trans (becomes_modify hbecomes.entry_self hfile),
      .inr ⟨mode', contents', rfl⟩⟩

/-- One more change to the file leaves everything else alone. -/
theorem apply (h : fs.Drafting place fs') (hfree : fs.entryAt? place.location = none)
    (hdir : fs.HasDirectory place.directory) {c : Change} (hc : c.IsAt place) :
    fs.Drafting place (fs'.apply c) := by
  have hdir' := h.hasDirectory hfree hdir
  have hold := h.not_hasDirectory
  obtain ⟨e, hbecomes, he⟩ := h
  cases c with
  | create other mode =>
    obtain rfl : other = place := hc
    exact ⟨_, hbecomes.trans (becomes_put mode [] hdir' hold), .inr ⟨mode, [], rfl⟩⟩
  | setMode other mode =>
    obtain rfl : other = place := hc
    exact modify ⟨e, hbecomes, he⟩ fun _ contents => ⟨mode, contents, rfl⟩
  | write other contents =>
    obtain rfl : other = place := hc
    exact modify ⟨e, hbecomes, he⟩ fun mode _ => ⟨mode, contents, rfl⟩
  | flush other => exact ⟨e, hbecomes, he⟩
  | sync other => exact ⟨e, hbecomes, he⟩
  | rename source target => exact hc.elim
  | remove other =>
    obtain rfl : other = place := hc
    exact ⟨_, hbecomes.trans (becomes_drop hdir' hold), .inl rfl⟩

/-- Any number of changes to the file leave everything else alone. -/
theorem applyAll (h : fs.Drafting place fs') (hfree : fs.entryAt? place.location = none)
    (hdir : fs.HasDirectory place.directory) (hchanges : ∀ c ∈ changes, c.IsAt place) :
    fs.Drafting place (fs'.applyAll changes) := by
  induction changes generalizing fs' with
  | nil => exact h
  | cons c changes ih =>
    exact ih (h.apply hfree hdir (hchanges c (by simp))) fun c' hc' => hchanges c' (by simp [hc'])

end Drafting

end FileSystem

namespace Sidecar

open FileSystem

variable {fs fs' : FileSystem} {target media : Path} {m : Metadata} {temporary place : Place}
  {changes left : List Change}

/-! ## What a crash leaves -/

/-- What may be left of some changes by a crash that comes after them: contents that were written
and have not been brought to the disk may be cut short. -/
inductive Survives : List Change → List Change → Prop where
  /-- Nothing was done. -/
  | nil : Survives [] []
  /-- A change is there. -/
  | kept (c : Change) {changes left : List Change} (rest : Survives changes left) :
      Survives (c :: changes) (c :: left)
  /-- A part of the contents is there. -/
  | cut (place : Place) {part contents : Bytes} {changes left : List Change}
      (start : part <+: contents) (unsynced : .sync place ∉ changes)
      (rest : Survives changes left) :
      Survives (.write place contents :: changes) (.write place part :: left)

namespace Survives

lemma refl (changes : List Change) : Survives changes changes := by
  induction changes with
  | nil => exact .nil
  | cons c changes ih => exact .kept c ih

lemma isAt (h : Survives changes left) (hchanges : ∀ c ∈ changes, c.IsAt place) :
    ∀ c ∈ left, c.IsAt place := by
  induction h with
  | nil => simp
  | kept c rest ih =>
    intro c' hc'
    rcases List.mem_cons.1 hc' with rfl | hc'
    · exact hchanges c' (by simp)
    · exact ih (fun c hc => hchanges c (by simp [hc])) c' hc'
  | @cut other part contents changes left start unsynced rest ih =>
    intro c' hc'
    rcases List.mem_cons.1 hc' with rfl | hc'
    · exact hchanges (.write other contents) (by simp)
    · exact ih (fun c hc => hchanges c (by simp [hc])) c' hc'

end Survives

/-- Whether all contents that some changes write are on the disk after them. -/
def Synced : List Change → Prop
  | [] => True
  | .write place _ :: changes => .sync place ∈ changes ∧ Synced changes
  | _ :: changes => Synced changes

lemma Synced.tail {c : Change} (h : Synced (c :: changes)) : Synced changes := by
  cases c with
  | write place contents => exact h.2
  | create | setMode | flush | sync | rename | remove => exact h

/-- What is on the disk is left as it is. -/
lemma Survives.eq_of_synced (h : Survives changes left) (hsynced : Synced changes) :
    left = changes := by
  induction h with
  | nil => rfl
  | kept c rest ih => rw [ih hsynced.tail]
  | cut place start unsynced rest ih => exact absurd hsynced.1 unsynced

/-! ## The plan -/

/-- The temporary file is on the disk when it is renamed. -/
lemma synced_rename (contents : Bytes) :
    Synced (draft fs target temporary contents ++ [.rename temporary place]) := by
  unfold draft
  split
  · simp [Synced]
  · simp [Synced]

/-! ## The directory of the temporary file -/

lemma exists_split_of_slash_mem {bs : Bytes} (h : Path.slash ∈ bs) :
    ∃ before last, bs = before ++ Path.slash :: last ∧ Path.slash ∉ last := by
  obtain ⟨last, before, hreverse, hlast⟩ := List.eq_append_cons_of_mem (List.mem_reverse.2 h)
  refine ⟨before.reverse, last.reverse, ?_, by simpa using hlast⟩
  rw [← List.reverse_reverse bs, hreverse]
  simp

/-- The directory of a path leads where the steps in front of the last one lead. -/
theorem resolve_directory_of_follow {p : Path} {xs : List Path.Step} {name : Name} {l : Location}
    {n : Node} (hp : p.steps = xs ++ [.down name]) (hrefusal : p.refusal? = none)
    (hfollow : follow fs.root true maxLinks (fs.origin p) xs = .ok (.found l n))
    (hn : n.isDirectory = true) : fs.resolve true p.directory = .ok (.found l n) := by
  by_cases hslash : Path.slash ∈ p.bytes
  · obtain ⟨before, last, hbytes, hlast⟩ := exists_split_of_slash_mem hslash
    have hend : (before ++ [Path.slash]).getLast? = some Path.slash := by simp
    have hjoin : p = (⟨before ++ [Path.slash]⟩ : Path).join last := by
      rw [Path.join, if_pos (.inr hend), List.append_assoc]
      exact congrArg Path.mk hbytes
    have hparent : fs.resolve true ⟨before ++ [Path.slash]⟩ = .ok (.found l n) := by
      rw [Path.steps, Path.segments, hbytes, Binary.splitAt_append_sep,
        Binary.splitAt_of_not_mem hlast, List.map_append] at hp
      obtain ⟨hxs, -⟩ := List.append_inj' hp rfl
      have hstart : before ++ [Path.slash] <+: p.bytes := ⟨last, by rw [hbytes]; simp⟩
      rw [resolve_of_refusal_eq_none (Path.refusal?_eq_none_of_start hstart (by simp) hrefusal),
        Path.steps_concat_slash, Path.steps, Path.segments, hxs, follow_concat_stay]
      rw [hjoin, origin_join (by simp)] at hfollow
      exact ⟨hfollow, hn⟩
    rw [hjoin]
    exact resolve_directory_join hparent hn hlast
  · have hrelative : fs.origin p = fs.current := by
      have hhead : p.bytes.head? ≠ some Path.slash := fun h => hslash (List.mem_of_mem_head? h)
      simp [origin, Path.isAbsolute, hhead]
    rw [Path.steps, Path.segments, Binary.splitAt_of_not_mem hslash] at hp
    obtain ⟨hxs, -⟩ := List.append_inj' (show [] ++ [_] = xs ++ [_] from hp) rfl
    have hdirectory : p.directory = ⟨[Path.dot]⟩ := by
      rw [Path.directory]
      simp [hslash]
    rw [hdirectory, resolve_of_refusal_eq_none (by decide)]
    rw [← hxs, hrelative] at hfollow
    exact (follow_append_stays hn 1).2 hfollow

/-- The temporary file is made in the directory of the sidecar. -/
lemma temporaryPlace_directory (h : targetPlace fs (pathFor media) = .ok place)
    (htemporary : temporaryPlace fs (pathFor media) = .ok temporary) :
    temporary.directory = place.directory := by
  obtain ⟨xs, bs, hbs, hsteps⟩ := steps_pathFor media
  obtain ⟨hrefusal, -, -, -, n, hfollow, hn⟩ := (targetPlace_eq_ok_iff hsteps).1 h
  have hdirectory := resolve_directory_of_follow hsteps hrefusal hfollow hn
  obtain ⟨k, hresolve⟩ := firstPlace_eq_ok htemporary
  rw [resolve_temporaryPath hdirectory hn] at hresolve
  split at hresolve
  · cases hresolve
  · obtain ⟨-, -, ⟨-, hfree⟩ | ⟨other, -, hfound⟩⟩ := lookIn_eq_ok_iff.1 hresolve
    · rw [Spot.free.injEq] at hfree
      rw [hfree]
    · cases hfound

/-! ## Writes that are cut short -/

/-- What is true of the file system when the writing of a sidecar has been cut short. -/
structure Interrupted (fs : FileSystem) (media : Path) (m : Metadata) (fs' : FileSystem) : Prop where
  /-- Everything but the temporary file and the sidecar is as it was. -/
  elsewhere : ∀ loc,
    (∀ temporary, temporaryPlace fs (pathFor media) = .ok temporary → loc ≠ temporary.location) →
    (∀ place, targetPlace fs (pathFor media) = .ok place → loc ≠ place.location) →
    fs'.entryAt? loc = fs.entryAt? loc
  /-- The sidecar is what was there, or it is complete and has its final mode. -/
  sidecar : ∀ place, targetPlace fs (pathFor media) = .ok place →
    fs'.entryAt? place.location = fs.entryAt? place.location ∨
      ∃ text, Frontmatter.render m = .ok text ∧ fs'.entryAt? place.location =
        some (.file (sidecarMode fs (pathFor media)) (Text.Utf8.encode text))
  /-- Nothing that was there is absent. -/
  present : ∀ loc, (fs.entryAt? loc).isSome → (fs'.entryAt? loc).isSome

namespace Interrupted

lemma refl (fs : FileSystem) (media : Path) (m : Metadata) : Interrupted fs media m fs :=
  ⟨fun _ _ _ => rfl, fun _ _ => .inl rfl, fun _ h => h⟩

/-- As long as only the temporary file is worked on, nothing else can be seen. -/
lemma of_drafting (htemporary : temporaryPlace fs (pathFor media) = .ok temporary)
    (h : fs.Drafting temporary fs') : Interrupted fs media m fs' := by
  obtain ⟨-, hfree, -⟩ := temporaryPlace_spec htemporary
  obtain ⟨e, hbecomes, -⟩ := h
  refine ⟨fun loc hloc _ => hbecomes.entry_of_ne (hloc temporary htemporary),
    fun place hplace => .inl (hbecomes.entry_of_ne (location_ne_temporary hplace htemporary)),
    fun loc hloc => ?_⟩
  have hne : loc ≠ temporary.location := by
    rintro rfl
    simp [hfree] at hloc
  rwa [hbecomes.entry_of_ne hne]

/-- When everything is done, the sidecar is complete. -/
lemma of_written {text : List Char} (hrender : Frontmatter.renderChars m = .ok text)
    (hplace : targetPlace fs (pathFor media) = .ok place)
    (h : fs.Becomes place.location
      (some (.file (sidecarMode fs (pathFor media)) (Text.Utf8.encodeChars text))) fs') :
    Interrupted fs media m fs' := by
  refine ⟨fun loc _ hloc => h.entry_of_ne (hloc place hplace), fun other hother => .inr ?_,
    fun loc hloc => ?_⟩
  · rw [hplace, Except.ok.injEq] at hother
    refine ⟨String.ofList text, Frontmatter.render_ofList hrender, ?_⟩
    rw [← hother, h.entry_self, Text.Utf8.encode_ofList]
  · by_cases hne : loc = place.location
    · rw [hne, h.entry_self]
      rfl
    · rwa [h.entry_of_ne hne]

end Interrupted

/-- A write only works on the temporary file, or it makes the temporary file complete and then puts
it in the place of the sidecar. -/
lemma changes_cases (device : Device) (fs : FileSystem) (media : Path) (m : Metadata) :
    (Plan.make device fs media m).changes = [] ∨
    (∃ temporary, temporaryPlace fs (pathFor media) = .ok temporary ∧
      ∀ c ∈ (Plan.make device fs media m).changes, c.IsAt temporary) ∨
    ∃ temporary place contents, temporaryPlace fs (pathFor media) = .ok temporary ∧
      (Plan.make device fs media m).changes =
        draft fs (pathFor media) temporary contents ++ [.rename temporary place] ∧
      (writeOn device fs media m).2 = .ok (pathFor media) := by
  have hplanned := planned device fs media m
  rw [writeOn_result]
  generalize Plan.make device fs media m = plan at hplanned
  cases hplanned with
  | unwritable render => exact .inl rfl
  | homeless render temporary => exact .inl rfl
  | broken render place failure =>
    exact .inr (.inl ⟨_, place, isAt_of_mem_giveUp (Device.isAt_of_mem_done isAt_of_mem_draft)⟩)
  | displaced render place sound target =>
    exact .inr (.inl ⟨_, place, isAt_of_mem_giveUp isAt_of_mem_draft⟩)
  | written render temporary sound target =>
    exact .inr (.inr ⟨_, _, _, temporary, rfl, rfl⟩)

/-- A write can be cut short anywhere, and contents that are not on the disk yet can be lost. -/
theorem interrupted_of_survives {device : Device} {k : Nat}
    (h : Survives ((Plan.make device fs media m).changes.take k) left) :
    Interrupted fs media m (fs.applyAll left) := by
  have hdrafting {temporary : Place}
      (htemporary : temporaryPlace fs (pathFor media) = .ok temporary)
      (hleft : ∀ c ∈ left, c.IsAt temporary) : Interrupted fs media m (fs.applyAll left) := by
    obtain ⟨hdir, hfree, -⟩ := temporaryPlace_spec htemporary
    exact .of_drafting htemporary ((Drafting.refl hfree).applyAll hfree hdir hleft)
  rcases changes_cases device fs media m with hchanges | ⟨temporary, htemporary, hat⟩ |
    ⟨temporary, place, contents, htemporary, hchanges, hok⟩
  · rw [hchanges, List.take_nil] at h
    cases h
    exact .refl fs media m
  · exact hdrafting htemporary (h.isAt fun c hc => hat c (List.mem_of_mem_take hc))
  · rw [hchanges] at h
    rcases Nat.lt_or_ge (draft fs (pathFor media) temporary contents).length k with hk | hk
    · -- everything has been done, and nothing of it can be lost
      rw [List.take_of_length_le (by rw [List.length_append]; exact hk)] at h
      rw [h.eq_of_synced (synced_rename contents), ← hchanges]
      obtain ⟨-, text, place', hrender, hplace, hbecomes⟩ := writeOn_ok hok
      exact .of_written hrender hplace hbecomes
    · -- the temporary file has not been renamed
      rw [List.take_append_of_le_length hk] at h
      exact hdrafting htemporary
        (h.isAt fun c hc => isAt_of_mem_draft c (List.mem_of_mem_take hc))

/-- A temporary file that is given up leaves nothing behind, however far it had come. -/
lemma given_up (htemporary : temporaryPlace fs (pathFor media) = .ok temporary) (contents : Bytes)
    (k : Nat) : fs.applyAll
      ((draft fs (pathFor media) temporary contents).take k ++ [.remove temporary]) = fs := by
  obtain ⟨-, hfree, -⟩ := temporaryPlace_spec htemporary
  exact applyAll_concat_remove (fun c hc => isAt_of_mem_draft c (List.mem_of_mem_take hc)) hfree

lemma sameEntries_given_up (htemporary : temporaryPlace fs (pathFor media) = .ok temporary)
    (contents : Bytes) (k : Nat) : fs.SameEntries
      (fs.applyAll ((draft fs (pathFor media) temporary contents).take k ++ [.remove temporary])) := by
  rw [given_up htemporary]
  exact .refl fs

/-- The writing of a sidecar may be cut short after any of its steps, and whatever calls fail on the
device: everything but the temporary file and the sidecar is as it was; the sidecar is what was
there, or a regular file that holds the whole text and has its final mode; and no entry is missing.
This is true even if contents that have not been brought to the disk are lost.

If a call fails, the plan takes the temporary file away again, and in the end nothing is different;
so it is however far the temporary file had come.  The temporary file has a name of its own, which
was free, in the directory of the sidecar. -/
theorem crash_safe (device : Device) (fs : FileSystem) (media : Path) (m : Metadata) :
    (∀ k, Interrupted fs media m (fs.applyAll ((Plan.make device fs media m).changes.take k))) ∧
    (∀ k left, Survives ((Plan.make device fs media m).changes.take k) left →
      Interrupted fs media m (fs.applyAll left)) ∧
    (∀ e, (Plan.make device fs media m).result = .error e →
      fs.SameEntries (fs.applyAll (Plan.make device fs media m).changes)) ∧
    (∀ temporary, temporaryPlace fs (pathFor media) = .ok temporary →
      (∀ contents k, fs.SameEntries (fs.applyAll
        ((draft fs (pathFor media) temporary contents).take k ++ [.remove temporary]))) ∧
      fs.entryAt? temporary.location = none ∧ (∃ k, temporary.name = temporaryName k) ∧
      ∀ place, targetPlace fs (pathFor media) = .ok place →
        temporary.directory = place.directory ∧ temporary.location ≠ place.location) := by
  refine ⟨fun k => interrupted_of_survives (.refl _), fun k left => interrupted_of_survives,
    fun e he => ?_, fun temporary htemporary => ?_⟩
  · have hsame : fs.applyAll (Plan.make device fs media m).changes = fs := writeOn_error he
    rw [hsame]
    exact .refl fs
  · obtain ⟨-, hfree, hname⟩ := temporaryPlace_spec htemporary
    exact ⟨sameEntries_given_up htemporary, hfree, hname, fun place hplace =>
      ⟨temporaryPlace_directory hplace htemporary, (location_ne_temporary hplace htemporary).symm⟩⟩

end Sidecar
end Sidecars
