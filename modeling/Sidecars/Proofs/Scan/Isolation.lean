import Sidecars.Proofs.Scan.Chance
import Sidecars.Proofs.Scan.Frame
import Sidecars.Proofs.Sidecar.Congruence
import Sidecars.Proofs.Walk.Rooted

/-!
# The files of a scan do not disturb each other

If there are no links below the root, no route is for sidecars, and the extractors look at nothing
but the contents of the file, then a scan deals with each file as if there were no others.

* `process_alike` compares what comes of one file in two file systems of which the second has some
  more sidecars.
* `Scan.Isolated` is the invariant: each report so far is what the item alone would have led to, and
  so is each sidecar.
* `Scan.run_isolated` says so of the whole scan.
-/

namespace Sidecars

open FileSystem

/-! ## One file -/

section

variable {d : Dispatcher} {fs fs' : FileSystem} {root : Path} {top a : Location} {name : Name}
  {S : Set Location}

/-- Whether only sidecars stand at some locations. -/
def OnlySidecars (S : Set Location) : Prop :=
  ∀ l ∈ S, ∃ directory name, l = directory ++ [Sidecar.nameOf name]

lemma OnlySidecars.name_eq (h : OnlySidecars S) {directory : Location}
    (hmem : directory ++ [name] ∈ S) : ∃ other, name = Sidecar.nameOf other := by
  obtain ⟨directory', other, heq⟩ := h _ hmem
  obtain ⟨-, hname⟩ := List.append_inj' heq rfl
  rw [List.cons.injEq] at hname
  exact ⟨other, hname.1⟩

lemma OnlySidecars.temporary_notMem (h : OnlySidecars S) (directory : Location) (k : Nat) :
    directory ++ [Sidecar.temporaryName k] ∉ S := by
  intro hmem
  obtain ⟨other, hname⟩ := h.name_eq hmem
  exact Sidecar.temporaryName_ne_nameFor k _ _ hname

/-- A file that goes a route is no sidecar. -/
lemma OnlySidecars.routed_notMem (h : OnlySidecars S) (hd : d.PassesSidecars) {route : Route}
    (hroute : d.route? (.ofPath (root.descend (a ++ [name]))) = some route)
    (directory : Location) : directory ++ [name] ∉ S := by
  intro hmem
  obtain ⟨other, rfl⟩ := h.name_eq hmem
  rw [← Sidecar.pathFor_descend,
    Dispatcher.route?_eq_none_of_extension hd (Sidecar.extension_pathFor _)] at hroute
  simp at hroute

lemma process_metadata {file : MediaFile} {route : Route} {m : Metadata}
    (hroute : d.route? file = some route)
    (hextract : route.extractor fs file.path = .ok (.metadata m)) :
    (process d fs file).outcome =
        (match (Sidecar.write fs file.path m).2 with
        | .ok sidecar => .written sidecar
        | .error e => .failed e) ∧
      (process d fs file).system = (Sidecar.write fs file.path m).1 := by
  unfold process
  cases hwrite : Sidecar.write fs file.path m with
  | mk fs' result => cases result <;> simp [hroute, hextract, hwrite]

lemma write_of_written {file : MediaFile} {route : Route} {m : Metadata} {sidecar : Path}
    (hroute : d.route? file = some route)
    (hextract : route.extractor fs file.path = .ok (.metadata m))
    (h : (process d fs file).outcome = .written sidecar) :
    (Sidecar.write fs file.path m).2 = .ok sidecar := by
  rw [(process_metadata hroute hextract).1] at h
  split at h
  · next s hs =>
    rw [Outcome.written.injEq] at h
    rw [hs, h]
  · simp at h

/-- What is written for the same metadata is the same, if it gets the same mode. -/
lemma entry_write_alike (h : fs.Grown S fs') (ha : fs.Opens root top a)
    (ha' : fs'.Opens root top a) {m : Metadata} {sidecar : Path} {place : Place}
    (hok : (Sidecar.write fs (root.descend (a ++ [name])) m).2 = .ok sidecar)
    (hok' : (Sidecar.write fs' (root.descend (a ++ [name])) m).2 = .ok sidecar)
    (hplace : Sidecar.targetPlace fs sidecar = .ok place)
    (hmode : Sidecar.sidecarMode fs' sidecar = Sidecar.sidecarMode fs sidecar) :
    (Sidecar.write fs' (root.descend (a ++ [name])) m).1.entryAt? place.location =
      (Sidecar.write fs (root.descend (a ++ [name])) m).1.entryAt? place.location := by
  obtain ⟨hsidecar, text, place₁, htext, hplace₁, hbecomes⟩ := Sidecar.write_ok hok
  obtain ⟨-, text', place₂, htext', hplace₂, hbecomes'⟩ := Sidecar.write_ok hok'
  have hsame : Sidecar.targetPlace fs' sidecar = Sidecar.targetPlace fs sidecar := by
    rw [hsidecar, Sidecar.pathFor_descend]
    exact ha.targetPlace_eq ha' (h.hasDirectory_iff _)
  rw [hsame, hplace, Except.ok.injEq] at hplace₂
  rw [hplace, Except.ok.injEq] at hplace₁
  rw [htext, Except.ok.injEq] at htext'
  subst hplace₁ hplace₂ htext'
  rw [hbecomes.entry_self, hbecomes'.entry_self, hmode]

/-- What comes of a file does not depend on whether there are more sidecars, and neither does the
sidecar that is written for it. -/
theorem process_alike (hd : d.PassesSidecars) (hx : d.DependsOnContents) (h : fs.Grown S fs')
    (hS : OnlySidecars S) (ha : fs.Opens root top a) (ha' : fs'.Opens root top a)
    (hlink : ∀ target, fs.entryAt? (top ++ a ++ [name]) ≠ some (.link target)) {file : MediaFile}
    (hfile : file = .ofPath (root.descend (a ++ [name]))) :
    (process d fs' file).outcome = (process d fs file).outcome ∧
      ∀ sidecar place, (process d fs file).outcome = .written sidecar →
        Sidecar.targetPlace fs sidecar = .ok place →
        Sidecar.sidecarMode fs' sidecar = Sidecar.sidecarMode fs sidecar →
        (process d fs' file).system.entryAt? place.location =
          (process d fs file).system.entryAt? place.location := by
  have hpath : file.path = root.descend (a ++ [name]) := by rw [hfile]; rfl
  cases hroute : d.route? file with
  | none => simp [process, hroute]
  | some route =>
    -- the file itself is no sidecar, so it is what it was
    have hread : fs'.read file.path = fs.read file.path := by
      rw [hfile] at hroute
      have hentry := h.entry_of_notMem _ (hS.routed_notMem hd hroute (top ++ a))
      refine read_eq_of_status_eq ?_
      rw [hpath, ha.status_child hlink, ha'.status_child (by rwa [hentry]), hentry]
    have hextract := hx route (Dispatcher.mem_of_route? hroute) fs fs' _ hread
    cases hfound : route.extractor fs file.path with
    | error e => simp [process, hroute, hfound, hextract]
    | ok finding =>
      cases finding with
      | nothing => simp [process, hroute, hfound, hextract]
      | never => simp [process, hroute, hfound, hextract]
      | metadata m =>
        rw [hfound] at hextract
        obtain ⟨houtcome, hsystem⟩ := process_metadata hroute hfound
        obtain ⟨houtcome', hsystem'⟩ := process_metadata hroute hextract
        have hresult : (Sidecar.write fs' file.path m).2 = (Sidecar.write fs file.path m).2 := by
          rw [hpath]
          exact Sidecar.write_result_eq m ha ha' h.current h.chance (h.hasDirectory_iff _)
            fun k => h.entry_of_notMem _ (hS.temporary_notMem _ k)
        refine ⟨by rw [houtcome, houtcome', hresult], fun sidecar place hwritten hplace hmode => ?_⟩
        have hok := write_of_written hroute hfound hwritten
        have hok' := hresult.trans hok
        rw [hpath] at hok hok' hsystem hsystem'
        rw [hsystem, hsystem']
        exact entry_write_alike h ha ha' hok hok' hplace hmode

end

/-! ## The invariant -/

namespace Scan

variable {d : Dispatcher} {fs : FileSystem} {root : Path} {showProgress : Bool}
  {top a : Location} {name : Name} {met : Set Location} {items : List WalkItem}

namespace Framed

lemma exists_address (h : Framed d fs root showProgress top met items) {l : Location}
    (hl : l ∈ sidecarLocations fs (stage d fs root showProgress items).reports) :
    ∃ a name, a ++ [name] ∈ met ∧ l = top ++ a ++ [Sidecar.nameOf name] := by
  obtain ⟨p, sidecar, place, hmem, hplace, rfl⟩ := hl
  exact h.address p sidecar place hmem hplace

lemma onlySidecars (h : Framed d fs root showProgress top met items) :
    OnlySidecars (sidecarLocations fs (stage d fs root showProgress items).reports) := by
  intro l hl
  obtain ⟨a, name, -, hlocation⟩ := h.exists_address hl
  exact ⟨_, name, hlocation⟩

lemma prefix_of_mem (h : Framed d fs root showProgress top met items) {l : Location}
    (hl : l ∈ sidecarLocations fs (stage d fs root showProgress items).reports) : top <+: l := by
  obtain ⟨a, name, -, rfl⟩ := h.exists_address hl
  rw [List.append_assoc]
  exact List.prefix_append _ _

lemma rooted (h : Framed d fs root showProgress top met items) (hroot : fs.Rooted root top) :
    (stage d fs root showProgress items).system.Rooted root top :=
  hroot.grown h.grown fun _ => h.prefix_of_mem

lemma opens (h : Framed d fs root showProgress top met items) (hroot : fs.Rooted root top)
    (ha : fs.Opens root top a) : (stage d fs root showProgress items).system.Opens root top a := by
  refine ha.grown h.grown fun l target hl => ?_
  obtain ⟨names, rfl⟩ := h.prefix_of_mem hl
  exact hroot.noLink names target

/-- As long as nothing below a directory has been met, its entries are what they were. -/
lemma entry_child (h : Framed d fs root showProgress top met items) (hnew : ∀ x ∈ met, ¬ a <+: x)
    (name : Name) : (stage d fs root showProgress items).system.entryAt? (top ++ a ++ [name]) =
      fs.entryAt? (top ++ a ++ [name]) := by
  refine h.grown.entry_of_notMem _ fun hmem => ?_
  obtain ⟨a', other, hmet, heq⟩ := h.exists_address hmem
  rw [List.append_assoc, List.append_assoc, List.append_right_inj] at heq
  obtain ⟨rfl, -⟩ := List.append_inj' heq rfl
  exact hnew _ hmet (List.prefix_append _ _)

/-- The sidecar of a file that has not been met gets the mode that it would have got before. -/
lemma sidecarMode_eq (h : Framed d fs root showProgress top met items) (hroot : fs.Rooted root top)
    (ha : fs.Opens root top a) (hnew : a ++ [name] ∉ met) :
    Sidecar.sidecarMode (stage d fs root showProgress items).system
        (Sidecar.pathFor (root.descend (a ++ [name]))) =
      Sidecar.sidecarMode fs (Sidecar.pathFor (root.descend (a ++ [name]))) := by
  have hentry : (stage d fs root showProgress items).system.entryAt?
        (top ++ a ++ [Sidecar.nameOf name]) = fs.entryAt? (top ++ a ++ [Sidecar.nameOf name]) := by
    refine h.grown.entry_of_notMem _ ?_
    rintro ⟨p, sidecar, place, hmem, hplace, hlocation⟩
    exact h.location_ne hnew hmem hplace hlocation
  have hlink := hroot.noLink_child a (Sidecar.nameOf name)
  refine Sidecar.sidecarMode_eq h.grown.umask ?_
  rw [Sidecar.pathFor_descend, ha.status_child hlink,
    (h.opens hroot ha).status_child (by rwa [hentry]), hentry]

/-- Where a directory was, nothing has changed. -/
lemma entry_directory (h : Framed d fs root showProgress top met items) {l : Location}
    (hl : fs.HasDirectory l) :
    (stage d fs root showProgress items).system.entryAt? l = fs.entryAt? l :=
  h.grown.entry_of_notMem l fun hmem => h.grown.old_of_mem l hmem hl

end Framed

/-- What is true of a scan whose files do not disturb each other: its reports and its sidecars so
far are those to which the items alone would have led. -/
structure Isolated (d : Dispatcher) (fs : FileSystem) (root : Path) (showProgress : Bool)
    (top : Location) (met : Set Location) (items : List WalkItem) : Prop where
  /-- Nothing but sidecars has changed. -/
  framed : Framed d fs root showProgress top met items
  /-- The reports are those on the items alone. -/
  reports : (stage d fs root showProgress items).reports =
    items.map fun item => ⟨item.path, (processItem d fs item).outcome⟩
  /-- The sidecars are those of the files alone. -/
  alone : ∀ p sidecar place,
    (⟨p, .written sidecar⟩ : Report) ∈ (stage d fs root showProgress items).reports →
    Sidecar.targetPlace fs sidecar = .ok place →
    (stage d fs root showProgress items).system.entryAt? place.location =
      (process d fs (.ofPath p)).system.entryAt? place.location

namespace Isolated

lemma nil : Isolated d fs root showProgress top ∅ [] where
  framed := .nil
  reports := rfl
  alone _ _ _ hmem := absurd hmem List.not_mem_nil

/-- One more item, for which nothing is written. -/
lemma quiet (h : Isolated d fs root showProgress top met items) {met' : Set Location}
    (hmet : met ⊆ met') {item : WalkItem}
    (houtcome : (nextProcessed d fs root showProgress items item).outcome =
      (processItem d fs item).outcome)
    (hnot : ∀ sidecar, (nextProcessed d fs root showProgress items item).outcome ≠
      .written sidecar)
    (hsame : (nextProcessed d fs root showProgress items item).system =
      (stage d fs root showProgress items).system) :
    Isolated d fs root showProgress top met' (items ++ [item]) := by
  refine ⟨h.framed.quiet hmet hnot hsame, ?_, fun p sidecar place hmem hplace => ?_⟩
  · rw [reports_stage_concat, h.reports, houtcome, List.map_append]
    rfl
  · rw [reports_stage_concat, List.mem_append, List.mem_singleton, Report.mk.injEq] at hmem
    rcases hmem with hmem | ⟨-, heq⟩
    · rw [system_stage_concat, hsame]
      exact h.alone p sidecar place hmem hplace
    · exact absurd heq.symm (hnot sidecar)

/-- One more file, whatever comes of it. -/
lemma file (h : Isolated d fs root showProgress top met items) (hroot : fs.Rooted root top)
    (hd : d.PassesSidecars) (hx : d.DependsOnContents) (ha : fs.Opens root top a)
    (hnew : a ++ [name] ∉ met) :
    Isolated d fs root showProgress top (insert (a ++ [name]) met)
      (items ++ [.file (.ofPath (root.descend (a ++ [name])))]) := by
  have hlink := hroot.noLink_child a name
  have hopens := h.framed.opens hroot ha
  obtain ⟨houtcome, halike⟩ :=
    process_alike hd hx h.framed.grown h.framed.onlySidecars ha hopens hlink rfl
  have houtcome' : (nextProcessed d fs root showProgress items
      (.file (.ofPath (root.descend (a ++ [name]))))).outcome =
        (processItem d fs (.file (.ofPath (root.descend (a ++ [name]))))).outcome := houtcome
  by_cases hwritten : ∃ sidecar, (nextProcessed d fs root showProgress items
      (.file (.ofPath (root.descend (a ++ [name]))))).outcome = .written sidecar
  · obtain ⟨sidecar, hwritten⟩ := hwritten
    obtain ⟨_, _, _, place, -, -, -, rfl, hplace, hlocation, -, hbecomes⟩ :=
      h.framed.next ha.leads hroot.bytes_ne_nil hwritten
    refine ⟨h.framed.written ha.leads hroot.bytes_ne_nil hnew hwritten, ?_,
      fun p sidecar place' hmem hplace' => ?_⟩
    · rw [reports_stage_concat, h.reports, houtcome', List.map_append]
      rfl
    · rw [reports_stage_concat, hwritten, List.mem_append, List.mem_singleton, Report.mk.injEq,
        Outcome.written.injEq] at hmem
      rw [system_stage_concat]
      rcases hmem with hmem | ⟨rfl, rfl⟩
      · rw [hbecomes.entry_of_ne (hlocation ▸ h.framed.location_ne hnew hmem hplace')]
        exact h.alone p sidecar place' hmem hplace'
      · refine halike _ place' (houtcome.symm.trans hwritten) hplace' ?_
        exact h.framed.sidecarMode_eq hroot ha hnew
  · rw [not_exists] at hwritten
    exact h.quiet (Set.subset_insert _ _) houtcome hwritten (process_not_written hwritten)

end Isolated

/-! ## The walk -/

/-- A scan meets what a walk through the unchanged file system meets, and stays isolated. -/
theorem simulates_isolated (hroot : fs.Rooted root top) (hd : d.PassesSidecars)
    (hx : d.DependsOnContents) :
    Walk.Simulates root Scan.system (meet d) (fun _ => fs) (fun items item => items ++ [item])
      (fs.Listed root top) (fun _ => false)
      (fun met s items => s = stage d fs root showProgress items ∧
        Isolated d fs root showProgress top met items) where
  shows := by
    rintro met s items a ⟨rfl, h⟩ ha hnew
    -- as long as nothing below it has been met, a directory shows what it showed before the scan
    rcases fault_or_opens hroot.opens (h.framed.rooted hroot).opens ha
      (h.framed.entry_directory ha.hasDirectory) fun _ => h.framed.opens hroot with
      ⟨e, hfault', hfault⟩ | ⟨hopens', hopens⟩
    · rw [hfault', hfault]
      exact .fault e
    · refine shows_of_entries hopens' hopens (fun name kind _ => ?_) (by simp)
      rw [h.framed.entry_child hnew]
      simp
  known := by
    rintro met s items a entries ⟨rfl, h⟩ ha hnew hlist e he
    obtain ⟨l, n, hn, hdir, rfl⟩ := list_eq_ok_iff.1 hlist
    have hrooted := h.framed.rooted hroot
    have hdirectory := (h.framed.grown.hasDirectory_iff _).2 ha.hasDirectory
    obtain ⟨n', hn', -⟩ := hrooted.opens.of_resolve hdirectory hn
    rw [hn, Except.ok.injEq, Spot.found.injEq] at hn'
    obtain ⟨rfl, rfl⟩ := hn'
    have hopens : fs.Opens root top a := h.framed.grown.resolve_back hn hdir
    obtain ⟨entry, hentry, hkind⟩ := (mem_listing_iff_entry (get?_of_resolve hn)).1 he
    rw [h.framed.entry_child hnew] at hentry
    rw [List.append_assoc] at hentry
    exact ⟨⟨entry, hentry, hkind⟩, .inr ⟨a, e.1, rfl, hopens⟩⟩
  link := by
    rintro met s items a - ⟨⟨e, he, hkind⟩, -⟩
    cases e with
    | link target => exact absurd he (hroot.noLink a target)
    | file mode contents => simp [Entry.kind] at hkind
    | directory mode => simp [Entry.kind] at hkind
    | pipe mode => simp [Entry.kind] at hkind
  file := by
    rintro met s items a kind ⟨rfl, h⟩ ha hkind hnew -
    refine ⟨stage_concat.symm, ?_⟩
    have hleaf : kind ≠ .directory := by
      rcases hkind with rfl | rfl
      · exact NodeKind.noConfusion
      · exact NodeKind.noConfusion
    obtain ⟨parent, name, rfl, hparent⟩ := ha.exists_parent hroot.opens hleaf
    exact h.file hroot hd hx hparent fun hmem => hnew _ hmem (List.prefix_refl _)
  more := by
    rintro met s items a - - - hextra
    simp at hextra
  fault := by
    rintro met s items a e ⟨rfl, h⟩ ha hlist
    refine ⟨stage_concat.symm, h.quiet subset_rfl rfl (fun sidecar => ?_) rfl⟩
    exact Outcome.noConfusion

/-! ## The whole scan -/

/-- A scan goes through all items of the walk through the unchanged file system. -/
lemma run_eq_stage (hroot : fs.Rooted root top) (hd : d.PassesSidecars)
    (hx : d.DependsOnContents) (showProgress : Bool) :
    run d fs root showProgress =
        .ok (stage d fs root showProgress (Walk.items fs root)).finish ∧
      ∃ met, Isolated d fs root showProgress top met (Walk.items fs root) := by
  have hsimulates := @simulates_isolated d fs root showProgress top hroot hd hx
  obtain ⟨met, hfold, hisolated⟩ := Walk.fold_simulates hsimulates
    (s := start fs root showProgress) (t := []) hroot.isDirectory hroot.isDirectory
    ⟨rfl, .nil⟩ hroot.opens.listed rfl
  exact ⟨run_eq_ok_iff.2 ⟨hroot.isDirectory, congrArg finish hfold.symm⟩, met, hisolated⟩

/-- The file of a report that tells of a sidecar, and the place of the sidecar beside it. -/
lemma exists_file_of_written (hroot : fs.Rooted root top) {p sidecar : Path}
    (h : (⟨p, .written sidecar⟩ : Report) ∈
      (Walk.items fs root).map fun item => ⟨item.path, (processItem d fs item).outcome⟩) :
    ∃ a name, p = root.descend (a ++ [name]) ∧ fs.Opens root top a ∧
      sidecar = root.descend (a ++ [Sidecar.nameOf name]) ∧
      Sidecar.targetPlace fs sidecar = .ok ⟨top ++ a, Sidecar.nameOf name⟩ := by
  obtain ⟨item, hitem, hreport⟩ := List.mem_map.1 h
  rw [Report.mk.injEq] at hreport
  obtain ⟨rfl, houtcome⟩ := hreport
  cases item with
  | fault p e => exact absurd houtcome Outcome.noConfusion
  | file file =>
    obtain ⟨a, name, -, -, rfl, hopens, -⟩ := Walk.found_of_mem_items hroot hitem
    obtain ⟨-, -, -, place, -, -, -, rfl, hplace, -⟩ := process_written houtcome
    have hpath : Sidecar.pathFor (MediaFile.ofPath (root.descend (a ++ [name]))).path =
        root.descend (a ++ [Sidecar.nameOf name]) := Sidecar.pathFor_descend root a name
    refine ⟨a, name, rfl, hopens, hpath, ?_⟩
    rw [hpath] at hplace ⊢
    rw [hplace, hopens.place_eq hplace]

/-- The place of a sidecar that was no regular file before is met by no walk. -/
lemma path_ne_of_not_file (hroot : fs.Rooted root top) {p sidecar : Path}
    (h : (⟨p, .written sidecar⟩ : Report) ∈
      (Walk.items fs root).map fun item => ⟨item.path, (processItem d fs item).outcome⟩)
    (hnot : fs.isFile sidecar = false) {item : WalkItem} (hitem : item ∈ Walk.items fs root) :
    item.path ≠ sidecar := by
  obtain ⟨a, name, -, hopens, rfl, hplace⟩ := exists_file_of_written hroot h
  intro heq
  have hfound := Walk.found_of_mem_items hroot hitem
  cases item with
  | file file =>
    obtain ⟨b, other, mode, contents, rfl, -, hfile⟩ := hfound
    have haddress := Path.descend_injective hroot.bytes_ne_nil heq
    rw [List.append_assoc, haddress, ← List.append_assoc] at hfile
    have hlink := hroot.noLink_child a (Sidecar.nameOf name)
    rw [(hopens.isFile_iff hlink hplace).2 ⟨mode, contents, hfile⟩] at hnot
    exact Bool.noConfusion hnot
  | fault p e =>
    obtain ⟨b, rfl, hlisted⟩ := hfound
    obtain rfl := Path.descend_injective hroot.bytes_ne_nil heq
    rw [← Sidecar.pathFor_descend] at hplace
    have hold := (Sidecar.hasDirectory_of_targetPlace hplace).2.1
    rw [Place.location, List.append_assoc] at hold
    exact hold hlisted.hasDirectory

/-- Every file is counted, and under one outcome only. -/
lemma length_reports (s : Scan) :
    s.reports.length = s.written + s.noMetadata + s.unsupported + s.failed := by
  unfold written noMetadata unsupported failed count
  induction s.reports with
  | nil => rfl
  | cons r reports ih =>
    simp only [List.length_cons, List.countP_cons, ih]
    cases r.outcome <;>
      simp [Outcome.isWritten, Outcome.isNoMetadata, Outcome.isUnsupported, Outcome.isFailed,
        Outcome.cause?] <;> omega

/-- If there are no links below the root, no route is for sidecars, and the extractors depend on
nothing but the path and the contents of a file, as those of the standard dispatcher do, then a scan
goes through.  Its reports are, in order, those on the items of a walk through the file system as it
was, each with the outcome of dealing with that item alone, but for the name of a temporary file if
chance says something else when the item is alone; so no sidecar that is new is reported.
The sidecars are those of the files alone, nothing else has changed, and all reports are counted. -/
theorem run_isolated (hroot : fs.Rooted root top) (hd : d.PassesSidecars)
    (hx : d.DependsOnContents) (showProgress : Bool) :
    (∃ s, run d fs root showProgress = .ok s ∧
      s.reports = (Walk.items fs root).map (fun item =>
        ⟨item.path, (processItem d fs item).outcome⟩) ∧
      (∀ item chance, (processItem d fs item).SameButName chance
        (processItem d (fs.withChance chance) item)) ∧
      (∀ p sidecar, (⟨p, .written sidecar⟩ : Report) ∈ s.reports → fs.isFile sidecar = false →
        ∀ r ∈ s.reports, r.path ≠ sidecar) ∧
      (∀ p sidecar, (⟨p, .written sidecar⟩ : Report) ∈ s.reports →
        ∃ place, Sidecar.targetPlace fs sidecar = .ok place ∧
          s.system.entryAt? place.location =
            (process d fs (.ofPath p)).system.entryAt? place.location) ∧
      (∀ loc, loc ∉ sidecarLocations fs s.reports → s.system.entryAt? loc = fs.entryAt? loc) ∧
      s.filesScanned = s.reports.length ∧
      s.filesScanned = s.written + s.noMetadata + s.unsupported + s.failed) ∧
    Dispatcher.standard.PassesSidecars ∧ Dispatcher.standard.DependsOnContents := by
  obtain ⟨hrun, met, hisolated⟩ := run_eq_stage hroot hd hx showProgress
  refine ⟨⟨_, hrun, hisolated.reports, processItem_withChance hx.ignoresChance fs, ?_, ?_,
    hisolated.framed.grown.entry_of_notMem, filesScanned_eq,
    filesScanned_eq.trans (length_reports _)⟩,
    Dispatcher.standard_passesSidecars, Dispatcher.standard_dependsOnContents⟩
  · intro p sidecar hmem hnot r hr
    change _ ∈ (stage d fs root showProgress (Walk.items fs root)).reports at hmem hr
    rw [hisolated.reports] at hmem hr
    obtain ⟨item, hitem, rfl⟩ := List.mem_map.1 hr
    exact path_ne_of_not_file hroot hmem hnot hitem
  · intro p sidecar hmem
    have hmem' := hmem
    change _ ∈ (stage d fs root showProgress (Walk.items fs root)).reports at hmem'
    rw [hisolated.reports] at hmem'
    obtain ⟨a, name, -, -, -, hplace⟩ := exists_file_of_written hroot hmem'
    exact ⟨_, hplace, hisolated.alone p sidecar _ hmem hplace⟩

/-! ## An album -/

/-- The name `a.jpg`. -/
def pictureName : Name where
  bytes := Binary.ascii "a.jpg"
  plain := by decide

/-- The name `album`. -/
def albumName : Name where
  bytes := Binary.ascii "album"
  plain := by decide

/-- The name `b.jpg`. -/
def emptyName : Name where
  bytes := Binary.ascii "b.jpg"
  plain := by decide

/-- The name `c.jpg`. -/
def blockedName : Name where
  bytes := Binary.ascii "c.jpg"
  plain := by decide

/-- The name `d`. -/
def folderName : Name where
  bytes := Binary.ascii "d"
  plain := by decide

/-- A directory with a picture, an empty file, a picture where a directory is in the way of the
sidecar, and a directory with another picture. -/
def albumNode : Node :=
  .directory 0o755 [(pictureName, .file 0o644 [0xFF]), (emptyName, .file 0o644 []),
    (blockedName, .file 0o644 [0xFF]), (Sidecar.nameOf blockedName, .directory 0o755 []),
    (folderName, .directory 0o755 [(pictureName, .file 0o644 [0xFF])])]

/-- A file system with such a directory `album`. -/
def albumSystem : FileSystem where
  root := .directory 0o755 [(albumName, albumNode)]
  current := []
  umask := 0o022

/-- A dispatcher that finds metadata in every picture that is not empty. -/
def pictureDispatcher : Dispatcher :=
  [⟨.image, ["jpg"], fun fs p =>
    match fs.read p with
    | .ok [] => .error (.io .unexpectedEnd)
    | .ok _ => .ok (.metadata [])
    | .error e => .error (.io (.os e))⟩]

lemma pictureDispatcher_passesSidecars : pictureDispatcher.PassesSidecars := by
  intro route hroute
  rw [pictureDispatcher, List.mem_singleton] at hroute
  rw [hroute]
  decide

lemma pictureDispatcher_dependsOnContents : pictureDispatcher.DependsOnContents := by
  intro route hroute fs fs' p hread
  rw [pictureDispatcher, List.mem_singleton] at hroute
  rw [hroute]
  simp only [hread]

lemma albumNode_noLink : albumNode.NoLink := by
  have hfile (contents : Bytes) : (Node.file 0o644 contents).NoLink := Node.noLink_file _ _
  refine Node.noLink_directory fun e he => ?_
  simp only [List.mem_cons, List.not_mem_nil, or_false] at he
  rcases he with rfl | rfl | rfl | rfl | rfl
  · exact hfile _
  · exact hfile _
  · exact hfile _
  · exact Node.noLink_directory (by simp)
  · exact Node.noLink_directory (by simp [hfile])

lemma albumSystem_rooted : albumSystem.Rooted ⟨albumName.bytes⟩ [albumName] where
  leads := ⟨_, rfl, rfl⟩
  noLink := noLink_below albumNode_noLink rfl

/-- The scan of an album deals with each of its files as if there were nothing else: it writes two
sidecars, one of them in the directory below, and fails with the empty file and with the picture
whose sidecar has no place. -/
theorem run_isolated_album :
    ∃ s, run pictureDispatcher albumSystem ⟨albumName.bytes⟩ false = .ok s ∧
      s.written = 2 ∧ s.failed = 2 ∧
      s.reports = (Walk.items albumSystem ⟨albumName.bytes⟩).map fun item =>
        ⟨item.path, (processItem pictureDispatcher albumSystem item).outcome⟩ := by
  obtain ⟨⟨s, hrun, hreports, -⟩, -⟩ := run_isolated albumSystem_rooted
    pictureDispatcher_passesSidecars pictureDispatcher_dependsOnContents false
  have hcounts : (run pictureDispatcher albumSystem ⟨albumName.bytes⟩ false).toOption.map
      (fun s => (s.written, s.failed)) = some (2, 2) := by decide +kernel
  rw [hrun] at hcounts
  obtain ⟨hwritten, hfailed⟩ : s.written = 2 ∧ s.failed = 2 := by
    simpa [Except.toOption] using hcounts
  exact ⟨s, hrun, hwritten, hfailed, hreports⟩

end Scan

end Sidecars
