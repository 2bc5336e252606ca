import Sidecars.Proofs.FileSystem.Change
import Sidecars.Proofs.FileSystem.Looking
import Sidecars.Proofs.FileSystem.Undoing
import Sidecars.Proofs.Sidecar.Temporary

/-!
# What writing a sidecar leads to

Where the temporary file and the sidecar go, and what is different afterwards.

* `Sidecar.planned` says which plans there are, and why: `Planned` has one case for each way in
  which writing can end.
* `Sidecar.writeOn_cases` says what they come to: either nothing is different, or there is a regular
  file with the rendered metadata at the sidecar's place and nothing else is different.
-/

namespace Sidecars

namespace Frontmatter

variable {m : Metadata}

lemma render_eq_ok_iff {text : String} :
    render m = .ok text ↔ renderChars m = .ok text.toList := by
  rw [render]
  cases renderChars m with
  | error e => simp [Except.map]
  | ok chars =>
    rw [Except.map, Except.ok.injEq, Except.ok.injEq]
    exact ⟨fun h => by rw [← h, String.toList_ofList], fun h => by rw [h, String.ofList_toList]⟩

lemma render_eq_error_iff {e : Yaml.WriteError} :
    render m = .error e ↔ renderChars m = .error e := by
  rw [render]
  cases renderChars m <;> simp [Except.map]

lemma render_ofList {text : List Char} (h : renderChars m = .ok text) :
    render m = .ok (String.ofList text) :=
  render_eq_ok_iff.2 (by rw [h, String.toList_ofList])

end Frontmatter

lemma Text.Utf8.encode_ofList (text : List Char) :
    encode (String.ofList text) = encodeChars text := by
  rw [encode, String.toList_ofList]

namespace Sidecar

open FileSystem

variable {fs : FileSystem} {target : Path} {place : Place}

/-! ## Places -/

lemma not_hasDirectory_iff_of_child {n : Node} {loc : Location} {name : Name}
    (hn : fs.root.get? loc = some n) :
    ¬ fs.HasDirectory (loc ++ [name]) ↔ ∀ m, n.child? name = some m → m.isDirectory = false := by
  rw [hasDirectory_iff, Node.get?_concat hn]
  simp

/-- The sidecar goes into the directory to which its path leads, under the last name of its path,
unless a directory is there. -/
theorem targetPlace_eq_ok_iff {xs : List Path.Step} {name : Name}
    (hp : target.steps = xs ++ [.down name]) :
    targetPlace fs target = .ok place ↔ target.refusal? = none ∧ place.name = name ∧
      name.bytes.length ≤ Name.maxLength ∧ ¬ fs.HasDirectory place.location ∧
      ∃ n, follow fs.root true maxLinks (fs.origin target) xs = .ok (.found place.directory n) ∧
        n.isDirectory = true := by
  constructor
  · intro h
    unfold targetPlace at h
    cases hresolve : fs.resolve false target with
    | error e => simp [hresolve] at h
    | ok spot =>
      obtain ⟨hrefusal, l, n, hfollow, hlook⟩ := (resolve_eq_ok_iff hp).1 hresolve
      have hn : fs.root.get? l = some n := stands_of_follow hfollow
      -- at the name there is nothing, or what is going to be replaced
      obtain ⟨hdir, hlength, ⟨hnone, rfl⟩ | ⟨m, hm, rfl⟩⟩ := lookIn_eq_ok_iff.1 hlook
      · simp only [hresolve, Except.ok.injEq] at h
        subst h
        refine ⟨hrefusal, rfl, hlength, ?_, n, hfollow, hdir⟩
        exact (not_hasDirectory_iff_of_child hn).2 (by simp [hnone])
      · have hplace : Place.ofLocation? (l ++ [name]) = some ⟨l, name⟩ := by
          simp [Place.ofLocation?]
        simp only [hresolve, hplace] at h
        cases hdm : m.isDirectory with
        | true => simp [hdm] at h
        | false =>
          simp only [hdm, Except.ok.injEq] at h
          subst h
          refine ⟨hrefusal, rfl, hlength, ?_, n, hfollow, hdir⟩
          exact (not_hasDirectory_iff_of_child hn).2 (by simp [hm, hdm])
  · rintro ⟨hrefusal, rfl, hlength, hold, n, hfollow, hdir⟩
    have hn : fs.root.get? place.directory = some n := stands_of_follow hfollow
    have hchild := (@not_hasDirectory_iff_of_child fs n place.directory place.name hn).1 hold
    unfold targetPlace
    cases hm : n.child? place.name with
    | none =>
      have hlook : lookIn n place.directory place.name = .ok (.free place) :=
        lookIn_eq_ok_iff.2 ⟨hdir, hlength, .inl ⟨hm, rfl⟩⟩
      rw [(resolve_eq_ok_iff hp).2 ⟨hrefusal, _, n, hfollow, hlook⟩]
    | some m =>
      have hlook : lookIn n place.directory place.name =
          .ok (.found (place.directory ++ [place.name]) m) :=
        lookIn_eq_ok_iff.2 ⟨hdir, hlength, .inr ⟨m, hm, rfl⟩⟩
      rw [(resolve_eq_ok_iff hp).2 ⟨hrefusal, _, n, hfollow, hlook⟩]
      simp [Place.ofLocation?, hchild m hm]

lemma hasDirectory_of_targetPlace {media : Path} (h : targetPlace fs (pathFor media) = .ok place) :
    fs.HasDirectory place.directory ∧ ¬ fs.HasDirectory place.location ∧
      ∃ bs hbs, place.name = nameFor bs hbs := by
  obtain ⟨xs, bs, hbs, hsteps⟩ := steps_pathFor media
  obtain ⟨-, hname, -, hold, n, hfollow, hdir⟩ := (targetPlace_eq_ok_iff hsteps).1 h
  exact ⟨hasDirectory_iff.2 ⟨n, stands_of_follow hfollow, hdir⟩, hold, bs, hbs, hname⟩

/-! ## The temporary file -/

/-- The temporary file is not where the sidecar goes. -/
lemma location_ne_temporary {media : Path} {temporary : Place}
    (h : targetPlace fs (pathFor media) = .ok place)
    (htemporary : temporaryPlace fs (pathFor media) = .ok temporary) :
    place.location ≠ temporary.location := by
  obtain ⟨-, -, bs, hbs, hname⟩ := hasDirectory_of_targetPlace h
  obtain ⟨-, -, k, hk⟩ := temporaryPlace_spec htemporary
  intro heq
  have hlast := congrArg List.getLast? heq
  simp only [Place.location, List.getLast?_concat, Option.some.injEq] at hlast
  rw [hk, hname] at hlast
  exact temporaryName_ne_nameFor k bs hbs hlast.symm

/-- The mode that a sidecar gets: that of the file to which its path leads, if there is one, else
that of a new file. -/
def sidecarMode (fs : FileSystem) (target : Path) : Nat :=
  match fs.status target with
  | .ok (.file mode _) => mode
  | _ => fs.masked newMode

/-- The changes that make the temporary file are made to no other file. -/
lemma isAt_of_mem_draft {temporary : Place} {contents : Bytes} :
    ∀ c ∈ draft fs target temporary contents, c.IsAt temporary := by
  unfold draft
  intro c hc
  rcases List.mem_cons.1 hc with rfl | hc
  · rfl
  · rcases List.mem_append.1 hc with hc | hc
    · split at hc
      · rw [List.mem_singleton.1 hc]
        rfl
      · simp at hc
    · simp only [List.mem_cons, List.not_mem_nil, or_false] at hc
      rcases hc with rfl | rfl | rfl
      · rfl
      · rfl
      · rfl

lemma becomes_writeFlushSync {temporary : Place} {mode : Nat} {before contents : Bytes}
    (hfile : fs.entryAt? temporary.location = some (.file mode before)) :
    fs.Becomes temporary.location (some (.file mode contents))
      (fs.applyAll [.write temporary contents, .flush temporary, .sync temporary]) :=
  becomes_write hfile

/-- The changes that make the temporary file add a complete file and do nothing else. -/
theorem becomes_draft {temporary : Place} (contents : Bytes)
    (hdir : fs.HasDirectory temporary.directory) (hfree : fs.entryAt? temporary.location = none) :
    fs.Becomes temporary.location (some (.file (sidecarMode fs target) contents))
      (fs.applyAll (draft fs target temporary contents)) := by
  have hcreate := @becomes_create fs temporary (fs.masked newMode) hdir hfree
  have hplain : fs.Becomes temporary.location (some (.file (fs.masked newMode) contents))
      (fs.applyAll [.create temporary (fs.masked newMode), .write temporary contents,
        .flush temporary, .sync temporary]) :=
    hcreate.trans (becomes_writeFlushSync hcreate.entry_self)
  unfold draft sidecarMode
  cases fs.status target with
  | error e => exact hplain
  | ok n =>
    cases n with
    | file mode old =>
      have hmode := @becomes_setMode _ temporary _ mode _ hcreate.entry_self
      exact hcreate.trans (hmode.trans (becomes_writeFlushSync hmode.entry_self))
    | directory mode es => exact hplain
    | link path => exact hplain
    | pipe mode => exact hplain

/-- When the temporary file is renamed, the sidecar is there, and nothing is left of how it has been
made. -/
lemma applyAll_draft_rename {temporary : Place} (contents : Bytes)
    (hdir : fs.HasDirectory temporary.directory) (hfree : fs.entryAt? temporary.location = none) :
    fs.applyAll (draft fs target temporary contents ++ [.rename temporary place]) =
      fs.put place (.file (sidecarMode fs target) contents) := by
  have hnode := nodeOf?_of_file (@becomes_draft fs target temporary contents hdir hfree).entry_self
  have hrename : fs.applyAll (draft fs target temporary contents ++ [.rename temporary place]) =
      (fs.applyAll (draft fs target temporary contents)).apply (.rename temporary place) := by
    rw [applyAll_append]
    rfl
  rw [hrename, apply, hnode]
  simp only
  rw [drop_applyAll isAt_of_mem_draft, drop_eq_self hfree]

lemma isAt_of_mem_giveUp {temporary : Place} {changes : List Change}
    (hat : ∀ c ∈ changes, c.IsAt temporary) : ∀ c ∈ giveUp temporary changes, c.IsAt temporary := by
  cases changes with
  | nil => simp [giveUp]
  | cons c changes =>
    intro c' hc'
    rcases List.mem_append.1 hc' with hc' | hc'
    · exact hat c' hc'
    · rw [List.mem_singleton.1 hc']
      rfl

/-- A temporary file that is given up leaves nothing behind. -/
lemma applyAll_giveUp {temporary : Place} {changes : List Change}
    (hat : ∀ c ∈ changes, c.IsAt temporary) (hfree : fs.entryAt? temporary.location = none) :
    fs.applyAll (giveUp temporary changes) = fs := by
  cases changes with
  | nil => rfl
  | cons c changes => exact applyAll_concat_remove hat hfree

/-! ## The plan -/

/-- The plans that there are for writing a sidecar on a device. -/
inductive Planned (device : Device) (fs : FileSystem) (media : Path) (m : Metadata) :
    Plan → Prop where
  /-- The metadata cannot be rendered. -/
  | unwritable {e : Yaml.WriteError} (render : Frontmatter.renderChars m = .error e) :
      Planned device fs media m ⟨[], .error (.unwritable e)⟩
  /-- There is no place for the temporary file. -/
  | homeless {text : List Char} {e : IoError} (render : Frontmatter.renderChars m = .ok text)
      (temporary : temporaryPlace fs (pathFor media) = .error e) :
      Planned device fs media m ⟨[], .error (.io e)⟩
  /-- A call fails before the temporary file is complete. -/
  | broken {text : List Char} {temporary : Place} {call : Call} {e : Errno}
      (render : Frontmatter.renderChars m = .ok text)
      (place : temporaryPlace fs (pathFor media) = .ok temporary)
      (failure : device.failure?
        (draft fs (pathFor media) temporary (Text.Utf8.encodeChars text)) = some (call, e)) :
      Planned device fs media m
        ⟨giveUp temporary
          (device.done (draft fs (pathFor media) temporary (Text.Utf8.encodeChars text))),
        .error (.io (callError call e (temporaryPath fs (pathFor media) temporary.name)))⟩
  /-- The temporary file cannot be put in the place of the sidecar. -/
  | displaced {text : List Char} {temporary : Place} {e : Errno}
      (render : Frontmatter.renderChars m = .ok text)
      (place : temporaryPlace fs (pathFor media) = .ok temporary)
      (sound : device.failure?
        (draft fs (pathFor media) temporary (Text.Utf8.encodeChars text)) = none)
      (target : placing device fs (pathFor media) = .error e) :
      Planned device fs media m
        ⟨giveUp temporary (draft fs (pathFor media) temporary (Text.Utf8.encodeChars text)),
        .error (.persist (pathFor media) e)⟩
  /-- The sidecar is written. -/
  | written {text : List Char} {temporary place : Place}
      (render : Frontmatter.renderChars m = .ok text)
      (temporary_place : temporaryPlace fs (pathFor media) = .ok temporary)
      (sound : device.failure?
        (draft fs (pathFor media) temporary (Text.Utf8.encodeChars text)) = none)
      (target : placing device fs (pathFor media) = .ok place) :
      Planned device fs media m
        ⟨draft fs (pathFor media) temporary (Text.Utf8.encodeChars text) ++
          [.rename temporary place],
        .ok (pathFor media)⟩

theorem planned (device : Device) (fs : FileSystem) (media : Path) (m : Metadata) :
    Planned device fs media m (Plan.make device fs media m) := by
  unfold Plan.make
  cases hrender : Frontmatter.renderChars m with
  | error e => exact .unwritable hrender
  | ok text =>
    cases htemporary : temporaryPlace fs (pathFor media) with
    | error e =>
      simp only [htemporary]
      exact .homeless hrender htemporary
    | ok temporary =>
      cases hfailure : device.failure?
          (draft fs (pathFor media) temporary (Text.Utf8.encodeChars text)) with
      | some failure =>
        simp only [htemporary, hfailure]
        exact .broken hrender htemporary hfailure
      | none =>
        cases htarget : placing device fs (pathFor media) with
        | error e =>
          simp only [htemporary, hfailure, htarget]
          exact .displaced hrender htemporary hfailure htarget
        | ok place =>
          simp only [htemporary, hfailure, htarget]
          exact .written hrender htemporary hfailure htarget

lemma targetPlace_of_placing {device : Device} (h : placing device fs target = .ok place) :
    targetPlace fs target = .ok place := by
  unfold placing at h
  split at h
  · cases h
  · exact h

lemma placing_sound (fs : FileSystem) (target : Path) :
    placing .sound fs target = targetPlace fs target :=
  rfl

/-! ## The whole write -/

lemma writeOn_result (device : Device) (fs : FileSystem) (media : Path) (m : Metadata) :
    (writeOn device fs media m).2 = (Plan.make device fs media m).result :=
  rfl

/-- Either a write fails and nothing is different, or there is a file with the rendered metadata at
the sidecar's place and nothing else is different. -/
theorem writeOn_cases (device : Device) (fs : FileSystem) (media : Path) (m : Metadata) :
    (∃ e, writeOn device fs media m = (fs, .error e)) ∨
      ∃ text place, Frontmatter.renderChars m = .ok text ∧
        targetPlace fs (pathFor media) = .ok place ∧
        writeOn device fs media m =
          (fs.put place (.file (sidecarMode fs (pathFor media)) (Text.Utf8.encodeChars text)),
            .ok (pathFor media)) := by
  have hplanned := planned device fs media m
  unfold writeOn
  generalize Plan.make device fs media m = plan at hplanned
  cases hplanned with
  | unwritable render => exact .inl ⟨_, rfl⟩
  | homeless render temporary => exact .inl ⟨_, rfl⟩
  | broken render place failure =>
    obtain ⟨-, hfree, -⟩ := temporaryPlace_spec place
    exact .inl ⟨_, Prod.ext (applyAll_giveUp (Device.isAt_of_mem_done isAt_of_mem_draft) hfree) rfl⟩
  | displaced render place sound target =>
    obtain ⟨-, hfree, -⟩ := temporaryPlace_spec place
    exact .inl ⟨_, Prod.ext (applyAll_giveUp isAt_of_mem_draft hfree) rfl⟩
  | written render temporary sound target =>
    obtain ⟨hdir, hfree, -⟩ := temporaryPlace_spec temporary
    exact .inr ⟨_, _, render, targetPlace_of_placing target,
      Prod.ext (applyAll_draft_rename _ hdir hfree) rfl⟩

variable {device : Device} {media s : Path} {m : Metadata}

lemma writeOn_ok (h : (writeOn device fs media m).2 = .ok s) :
    s = pathFor media ∧ ∃ text place, Frontmatter.renderChars m = .ok text ∧
      targetPlace fs s = .ok place ∧
      fs.Becomes place.location (some (.file (sidecarMode fs s) (Text.Utf8.encodeChars text)))
        (writeOn device fs media m).1 := by
  rcases writeOn_cases device fs media m with ⟨e, he⟩ | ⟨text, place, htext, hplace, hwrite⟩
  · rw [he] at h
    cases h
  · rw [hwrite, Except.ok.injEq] at h
    subst h
    obtain ⟨hdir, hold, -⟩ := hasDirectory_of_targetPlace hplace
    refine ⟨rfl, text, place, htext, hplace, ?_⟩
    rw [hwrite]
    exact becomes_put _ _ hdir hold

lemma writeOn_error {e : Error} (h : (writeOn device fs media m).2 = .error e) :
    (writeOn device fs media m).1 = fs := by
  rcases writeOn_cases device fs media m with ⟨e, he⟩ | ⟨text, place, -, -, hwrite⟩
  · rw [he]
  · rw [hwrite] at h
    cases h

/-- What `writeOn_ok` says of a sound device. -/
lemma write_ok (h : (write fs media m).2 = .ok s) :
    s = pathFor media ∧ ∃ text place, Frontmatter.renderChars m = .ok text ∧
      targetPlace fs s = .ok place ∧
      fs.Becomes place.location (some (.file (sidecarMode fs s) (Text.Utf8.encodeChars text)))
        (write fs media m).1 :=
  writeOn_ok h

/-- What `writeOn_error` says of a sound device. -/
lemma write_error {e : Error} (h : (write fs media m).2 = .error e) : (write fs media m).1 = fs :=
  writeOn_error h

/-- What a write answers depends on the text, the temporary file and the place of the sidecar, in
this order. -/
lemma write_result (fs : FileSystem) (media : Path) (m : Metadata) :
    (write fs media m).2 =
      match Frontmatter.renderChars m with
      | .error e => .error (.unwritable e)
      | .ok _ =>
        match temporaryPlace fs (pathFor media) with
        | .error e => .error (.io e)
        | .ok _ =>
          match targetPlace fs (pathFor media) with
          | .error e => .error (.persist (pathFor media) e)
          | .ok _ => .ok (pathFor media) := by
  have hplanned := planned .sound fs media m
  rw [write, writeOn_result]
  generalize Plan.make .sound fs media m = plan at hplanned
  cases hplanned with
  | unwritable render => simp only [render]
  | homeless render temporary => simp only [render, temporary]
  | broken render place failure =>
    rw [Device.failure?_sound] at failure
    cases failure
  | displaced render place sound target =>
    rw [placing_sound] at target
    simp only [render, place, target]
  | written render temporary sound target =>
    rw [placing_sound] at target
    simp only [render, temporary, target]

end Sidecar

end Sidecars
