import Sidecars.Proofs.MediaFile
import Sidecars.Proofs.Scan.Step
import Sidecars.Proofs.Walk
import Sidecars.Proofs.Walk.Descent

/-!
# A scan changes nothing but sidecars

Whatever stands in the file system, and whatever the extractors do, a scan leaves everything as it
was except for the sidecars that it reports.  The invariant `Scan.Framed` says so of a scan that has
met some items already, and it holds after each further item:

* the file system has grown by the sidecars of the reports (`Framed.grown`);
* each sidecar is at the address of its own media file (`Framed.address`), so no two are the same;
* each sidecar is as its media file demanded when its turn had come (`Framed.stored`).
-/

namespace Sidecars.Scan

open FileSystem

variable {d : Dispatcher} {fs : FileSystem} {root : Path} {showProgress : Bool}
  {top : Location} {met met' : Set Location} {items : List WalkItem} {item : WalkItem}

/-- Whatever comes of an item, a file system that has grown has grown afterwards. -/
lemma exists_grown_processItem {S : Set Location} {fs' : FileSystem} (h : fs.Grown S fs')
    (item : WalkItem) : ∃ S', fs.Grown S' (processItem d fs' item).system := by
  cases item with
  | fault p e => exact ⟨S, h⟩
  | file file =>
    by_cases hwritten : ∃ sidecar, (process d fs' file).outcome = .written sidecar
    · obtain ⟨sidecar, hwritten⟩ := hwritten
      obtain ⟨_, _, _, place, -, -, -, rfl, hplace, hbecomes⟩ := process_written hwritten
      exact ⟨_, h.insert hbecomes (Sidecar.hasDirectory_of_targetPlace hplace).2.1⟩
    · rw [not_exists] at hwritten
      have hsame : (processItem d fs' (.file file)).system = fs' := process_not_written hwritten
      exact ⟨S, by rwa [hsame]⟩

/-- Where the sidecars are that some reports tell of.  The places are those to which the paths led
before the scan. -/
def sidecarLocations (fs : FileSystem) (reports : List Report) : Set Location :=
  {loc | ∃ p sidecar place, (⟨p, .written sidecar⟩ : Report) ∈ reports ∧
    Sidecar.targetPlace fs sidecar = .ok place ∧ place.location = loc}

lemma sidecarLocations_concat_quiet {reports : List Report} {p : Path} {outcome : Outcome}
    (h : ∀ sidecar, outcome ≠ .written sidecar) :
    sidecarLocations fs (reports ++ [⟨p, outcome⟩]) = sidecarLocations fs reports := by
  ext loc
  constructor
  · rintro ⟨q, sidecar, place, hmem, hplace⟩
    rcases List.mem_append.1 hmem with hmem | hmem
    · exact ⟨q, sidecar, place, hmem, hplace⟩
    · rw [List.mem_singleton, Report.mk.injEq] at hmem
      exact absurd hmem.2.symm (h sidecar)
  · rintro ⟨q, sidecar, place, hmem, hplace⟩
    exact ⟨q, sidecar, place, List.mem_append_left _ hmem, hplace⟩

lemma sidecarLocations_concat_written {reports : List Report} {p sidecar : Path} {place : Place}
    (h : Sidecar.targetPlace fs sidecar = .ok place) :
    sidecarLocations fs (reports ++ [⟨p, .written sidecar⟩]) =
      insert place.location (sidecarLocations fs reports) := by
  ext loc
  rw [Set.mem_insert_iff]
  constructor
  · rintro ⟨q, sidecar', place', hmem, hplace, rfl⟩
    rcases List.mem_append.1 hmem with hmem | hmem
    · exact .inr ⟨q, sidecar', place', hmem, hplace, rfl⟩
    · rw [List.mem_singleton, Report.mk.injEq, Outcome.written.injEq] at hmem
      rw [hmem.2, h, Except.ok.injEq] at hplace
      exact .inl (by rw [hplace])
  · rintro (rfl | ⟨q, sidecar', place', hmem, hplace, rfl⟩)
    · exact ⟨p, sidecar, place, by simp, h, rfl⟩
    · exact ⟨q, sidecar', place', List.mem_append_left _ hmem, hplace, rfl⟩

/-- Whether the file that is there now as a sidecar holds the metadata that was found in a media
file.  `before` is the file system in which the metadata was looked for. -/
def Stored (d : Dispatcher) (fs before after : FileSystem) (p sidecar : Path) : Prop :=
  sidecar = Sidecar.pathFor p ∧ ∃ route m text place mode,
    d.route? (.ofPath p) = some route ∧ route.extractor before p = .ok (.metadata m) ∧
    Frontmatter.render m = .ok text ∧ Sidecar.targetPlace fs sidecar = .ok place ∧
    after.entryAt? place.location = some (.file mode (Text.Utf8.encode text))

lemma Stored.of_entry_eq {before after after' : FileSystem} {p sidecar : Path}
    (h : Stored d fs before after p sidecar)
    (hsame : ∀ place, Sidecar.targetPlace fs sidecar = .ok place →
      after'.entryAt? place.location = after.entryAt? place.location) :
    Stored d fs before after' p sidecar := by
  obtain ⟨hpath, route, m, text, place, mode, hroute, hextract, htext, hplace, hentry⟩ := h
  refine ⟨hpath, route, m, text, place, mode, hroute, hextract, htext, hplace, ?_⟩
  rw [hsame place hplace, hentry]

/-! ## The invariant -/

/-- What is true of a scan that has met some items. -/
structure Framed (d : Dispatcher) (fs : FileSystem) (root : Path) (showProgress : Bool)
    (top : Location) (met : Set Location) (items : List WalkItem) : Prop where
  /-- The sidecars are new files, and nothing else is new. -/
  grown : fs.Grown (sidecarLocations fs (stage d fs root showProgress items).reports)
    (stage d fs root showProgress items).system
  /-- A sidecar stands beside its media file. -/
  address : ∀ p sidecar place,
    (⟨p, .written sidecar⟩ : Report) ∈ (stage d fs root showProgress items).reports →
    Sidecar.targetPlace fs sidecar = .ok place →
    ∃ a name, a ++ [name] ∈ met ∧ place.location = top ++ a ++ [Sidecar.nameOf name]
  /-- A sidecar holds what was found. -/
  stored : ∀ i p sidecar,
    (stage d fs root showProgress items).reports[i]? = some ⟨p, .written sidecar⟩ →
    Stored d fs (stage d fs root showProgress (items.take i)).system
      (stage d fs root showProgress items).system p sidecar

namespace Framed

lemma nil : Framed d fs root showProgress top ∅ [] where
  grown := by
    have hempty : sidecarLocations fs (stage d fs root showProgress []).reports = ∅ := by
      ext loc
      simp [sidecarLocations, stage, start]
    rw [hempty]
    exact .refl fs
  address p sidecar place hmem := absurd hmem List.not_mem_nil
  stored i p sidecar hi := by simp [stage, start] at hi

/-- An item for which nothing is written leaves everything as it is. -/
lemma quiet (h : Framed d fs root showProgress top met items) (hmet : met ⊆ met')
    (hnot : ∀ sidecar, (nextProcessed d fs root showProgress items item).outcome ≠
      .written sidecar)
    (hsame : (nextProcessed d fs root showProgress items item).system =
      (stage d fs root showProgress items).system) :
    Framed d fs root showProgress top met' (items ++ [item]) := by
  refine ⟨?_, fun p sidecar place hmem hplace => ?_, fun i p sidecar hi => ?_⟩
  · rw [reports_stage_concat, sidecarLocations_concat_quiet hnot, system_stage_concat, hsame]
    exact h.grown
  · rw [reports_stage_concat, List.mem_append, List.mem_singleton, Report.mk.injEq] at hmem
    rcases hmem with hmem | ⟨-, heq⟩
    · obtain ⟨a, name, ha, hlocation⟩ := h.address p sidecar place hmem hplace
      exact ⟨a, name, hmet ha, hlocation⟩
    · exact absurd heq.symm (hnot sidecar)
  · rcases getElem?_reports_stage_concat hi with ⟨hlt, hold⟩ | ⟨-, heq⟩
    · rw [List.take_append_of_le_length hlt.le, system_stage_concat, hsame]
      exact h.stored i p sidecar hold
    · rw [Report.mk.injEq] at heq
      exact absurd heq.2.symm (hnot sidecar)

/-- The place of a sidecar is the same before the scan as when its turn comes: beside the media
file. -/
lemma targetPlace_back (h : Framed d fs root showProgress top met items) {a : Location}
    {name : Name} {place : Place} (ha : fs.Leads root top a) (hroot : root.bytes ≠ [])
    (hplace : Sidecar.targetPlace (stage d fs root showProgress items).system
      (Sidecar.pathFor (root.descend (a ++ [name]))) = .ok place) :
    Sidecar.targetPlace fs (Sidecar.pathFor (root.descend (a ++ [name]))) = .ok place ∧
      place.location = top ++ a ++ [Sidecar.nameOf name] := by
  have hne := Path.descend_ne_nil hroot a
  rw [Path.descend_concat, Sidecar.pathFor_join, targetPlace_join_eq_ok_iff hne] at hplace ⊢
  obtain ⟨hrefusal, hname, hlength, hold, n, hn, hdir⟩ := hplace
  obtain ⟨m, hm, hdir'⟩ := h.grown.resolve_back hn hdir
  rw [h.grown.hasDirectory_iff] at hold
  refine ⟨⟨hrefusal, hname, hlength, hold, m, hm, hdir'⟩, ?_⟩
  rw [Place.location, ha.leads _ m hm, hname]

/-- The sidecars so far stand elsewhere than that of an address that has not been met. -/
lemma location_ne (h : Framed d fs root showProgress top met items) {a : Location} {name : Name}
    (hnew : a ++ [name] ∉ met) {p sidecar : Path} {place : Place}
    (hmem : (⟨p, .written sidecar⟩ : Report) ∈ (stage d fs root showProgress items).reports)
    (hplace : Sidecar.targetPlace fs sidecar = .ok place) :
    place.location ≠ top ++ a ++ [Sidecar.nameOf name] := by
  intro heq
  obtain ⟨a', name', hmem', hlocation⟩ := h.address p sidecar place hmem hplace
  rw [hlocation, List.append_assoc, List.append_assoc, List.append_right_inj] at heq
  obtain ⟨rfl, hname⟩ := List.append_inj' heq rfl
  rw [List.cons.injEq] at hname
  exact hnew (Sidecar.nameOf_injective hname.1 ▸ hmem')

/-- What is true if the sidecar of the next item is written. -/
lemma next (h : Framed d fs root showProgress top met items) {a : Location} {name : Name}
    {sidecar : Path} (ha : fs.Leads root top a) (hroot : root.bytes ≠ [])
    (hwritten : (nextProcessed d fs root showProgress items
      (.file (.ofPath (root.descend (a ++ [name]))))).outcome = .written sidecar) :
    ∃ route m text place, d.route? (.ofPath (root.descend (a ++ [name]))) = some route ∧
      route.extractor (stage d fs root showProgress items).system (root.descend (a ++ [name])) =
        .ok (.metadata m) ∧
      Frontmatter.render m = .ok text ∧ sidecar = Sidecar.pathFor (root.descend (a ++ [name])) ∧
      Sidecar.targetPlace fs sidecar = .ok place ∧
      place.location = top ++ a ++ [Sidecar.nameOf name] ∧
      ¬ (stage d fs root showProgress items).system.HasDirectory place.location ∧
      (stage d fs root showProgress items).system.Becomes place.location
        (some (.file (Sidecar.sidecarMode (stage d fs root showProgress items).system sidecar)
          (Text.Utf8.encode text)))
        (nextProcessed d fs root showProgress items
          (.file (.ofPath (root.descend (a ++ [name]))))).system := by
  obtain ⟨route, m, text, place, hroute, hextract, htext, rfl, hplace, hbecomes⟩ :=
    process_written hwritten
  obtain ⟨hplace', hlocation⟩ := h.targetPlace_back ha hroot hplace
  exact ⟨route, m, text, place, hroute, hextract, htext, rfl, hplace', hlocation,
    (Sidecar.hasDirectory_of_targetPlace hplace).2.1, hbecomes⟩

/-- A file whose sidecar is written: the sidecar is new, and those before it are not touched. -/
lemma written (h : Framed d fs root showProgress top met items) {a : Location} {name : Name}
    {sidecar : Path} (ha : fs.Leads root top a) (hroot : root.bytes ≠ [])
    (hnew : a ++ [name] ∉ met)
    (hwritten : (nextProcessed d fs root showProgress items
      (.file (.ofPath (root.descend (a ++ [name]))))).outcome = .written sidecar) :
    Framed d fs root showProgress top (insert (a ++ [name]) met)
      (items ++ [.file (.ofPath (root.descend (a ++ [name])))]) := by
  obtain ⟨route, m, text, place, hroute, hextract, htext, rfl, hplace, hlocation, hold, hbecomes⟩ :=
    h.next ha hroot hwritten
  refine ⟨?_, fun p sidecar place' hmem hplace' => ?_, fun i p sidecar hi => ?_⟩
  · rw [reports_stage_concat, hwritten, sidecarLocations_concat_written hplace, system_stage_concat]
    exact h.grown.insert hbecomes hold
  · rw [reports_stage_concat, hwritten, List.mem_append, List.mem_singleton, Report.mk.injEq,
      Outcome.written.injEq] at hmem
    rcases hmem with hmem | ⟨-, rfl⟩
    · obtain ⟨a', name', ha', hlocation'⟩ := h.address p sidecar place' hmem hplace'
      exact ⟨a', name', Set.mem_insert_of_mem _ ha', hlocation'⟩
    · rw [hplace, Except.ok.injEq] at hplace'
      exact ⟨a, name, Set.mem_insert _ _, hplace' ▸ hlocation⟩
  · rw [system_stage_concat]
    rcases getElem?_reports_stage_concat hi with ⟨hlt, hearlier⟩ | ⟨rfl, heq⟩
    · rw [List.take_append_of_le_length hlt.le]
      refine (h.stored i p sidecar hearlier).of_entry_eq fun place' hplace' => ?_
      refine hbecomes.entry_of_ne ?_
      rw [hlocation]
      exact h.location_ne hnew (List.mem_of_getElem? hearlier) hplace'
    · rw [hwritten, Report.mk.injEq, Outcome.written.injEq] at heq
      obtain ⟨rfl, rfl⟩ := heq
      rw [List.take_left]
      exact ⟨rfl, route, m, text, place, _, hroute, hextract, htext, hplace, hbecomes.entry_self⟩

/-- One more file, whatever comes of it. -/
lemma file (h : Framed d fs root showProgress top met items) {a : Location} {name : Name}
    (ha : fs.Leads root top a) (hroot : root.bytes ≠ []) (hnew : a ++ [name] ∉ met) :
    Framed d fs root showProgress top (insert (a ++ [name]) met)
      (items ++ [.file (.ofPath (root.descend (a ++ [name])))]) := by
  by_cases hwritten : ∃ sidecar, (nextProcessed d fs root showProgress items
      (.file (.ofPath (root.descend (a ++ [name]))))).outcome = .written sidecar
  · obtain ⟨sidecar, hwritten⟩ := hwritten
    exact h.written ha hroot hnew hwritten
  · rw [not_exists] at hwritten
    exact h.quiet (Set.subset_insert _ _) hwritten (process_not_written hwritten)

/-- One more directory that cannot be looked into. -/
lemma fault (h : Framed d fs root showProgress top met items) (p : Path) (e : Errno) :
    Framed d fs root showProgress top met (items ++ [.fault p e]) :=
  h.quiet subset_rfl (fun _ => Outcome.noConfusion) rfl

end Framed

/-! ## The walk -/

/-- What is known of an address in a walk that has links: a directory is led to, and everything
else is an entry of such a directory. -/
def Known (fs : FileSystem) (root : Path) (top a : Location) (kind : NodeKind) : Prop :=
  if kind = .directory then fs.Leads root top a
  else ∃ parent name, a = parent ++ [name] ∧ fs.Leads root top parent

/-- A scan stays framed along its walk. -/
theorem simulates_framed (hroot : root.bytes ≠ []) :
    Walk.Simulates root Scan.system (meet d) (fun items => (stage d fs root showProgress items).system)
      (fun items item => items ++ [item]) (Known fs root top) (fun _ => false)
      (fun met s items => s = stage d fs root showProgress items ∧
        Framed d fs root showProgress top met items) where
  shows := by
    rintro met s items a ⟨rfl, h⟩ ha hnew
    cases hlist : (stage d fs root showProgress items).system.list (root.descend a) with
    | error e => exact .fault e
    | ok entries => exact .listed entries entries (list_names_nodup hlist) (by simp) (by simp)
  known := by
    rintro met s items a entries ⟨rfl, h⟩ ha - hlist e he
    have hleads : fs.Leads root top a := by simpa [Known] using ha
    unfold Known
    split
    · next hkind => exact hleads.child h.grown hlist (hkind ▸ he)
    · exact ⟨a, e.1, rfl, hleads⟩
  link := by
    rintro met s items a ⟨rfl, h⟩ ha
    rfl
  file := by
    rintro met s items a kind ⟨rfl, h⟩ ha hkind hnew -
    refine ⟨stage_concat.symm, ?_⟩
    have hleaf : kind ≠ .directory := by
      rcases hkind with rfl | rfl
      · exact NodeKind.noConfusion
      · exact NodeKind.noConfusion
    rw [Known, if_neg hleaf] at ha
    obtain ⟨parent, name, rfl, hleads⟩ := ha
    exact h.file hleads hroot fun hmem => hnew _ hmem (List.prefix_refl _)
  more := by
    rintro met s items a - - - hextra
    simp at hextra
  fault := by
    rintro met s items a e ⟨rfl, h⟩ ha hlist
    exact ⟨stage_concat.symm, h.fault _ e⟩

/-! ## The whole scan -/

/-- The file system after a scan.  A scan whose root is no directory does nothing to it. -/
def systemAfter (d : Dispatcher) (fs : FileSystem) (root : Path) (showProgress : Bool) :
    FileSystem :=
  match run d fs root showProgress with
  | .ok s => s.system
  | .error _ => fs

/-- The reports of a scan, of which there are none if its root is no directory. -/
def reportsOf (d : Dispatcher) (fs : FileSystem) (root : Path) (showProgress : Bool) :
    List Report :=
  match run d fs root showProgress with
  | .ok s => s.reports
  | .error _ => []

/-- The file system in which a scan deals with the item of a number. -/
def systemAt (d : Dispatcher) (fs : FileSystem) (root : Path) (showProgress : Bool) (i : Nat) :
    FileSystem :=
  (stage d fs root showProgress
    ((Walk.met Scan.system (meet d) root (start fs root showProgress)).take i)).system

/-- What is left of a scan is framed, whether its root is a directory or not. -/
lemma framed_run (d : Dispatcher) (fs : FileSystem) (root : Path) (showProgress : Bool) :
    fs.Grown (sidecarLocations fs (reportsOf d fs root showProgress))
      (systemAfter d fs root showProgress) ∧
    ∀ i p sidecar, (reportsOf d fs root showProgress)[i]? = some ⟨p, .written sidecar⟩ →
      Stored d fs (systemAt d fs root showProgress i) (systemAfter d fs root showProgress)
        p sidecar := by
  by_cases hdir : fs.isDirectory root = true
  · obtain ⟨top, n, hresolve, hn⟩ := isDirectory_path_iff.1 hdir
    have hopens : fs.Opens root top [] := ⟨n, by rwa [List.append_nil], hn⟩
    have hroot : Known fs root top [] .directory := by
      rw [Known, if_pos rfl]
      exact hopens.leads
    obtain ⟨met, hfold, hframed⟩ := Walk.fold_simulates
      (@simulates_framed d fs root showProgress top (bytes_ne_nil_of_resolve hresolve))
      (s := start fs root showProgress) (t := []) hdir hdir ⟨rfl, .nil⟩ hroot rfl
    have hrun : run d fs root showProgress = .ok _ := run_eq_ok_iff.2 ⟨hdir, rfl⟩
    rw [systemAfter, reportsOf, hrun]
    simp only [finish, hfold]
    exact ⟨hframed.grown, hframed.stored⟩
  · have hrun : ∃ e, run d fs root showProgress = .error e := by
      cases hrun : run d fs root showProgress with
      | error e => exact ⟨e, rfl⟩
      | ok s => exact absurd (run_eq_ok_iff.1 hrun).1 hdir
    obtain ⟨e, hrun⟩ := hrun
    have hempty : sidecarLocations fs (reportsOf d fs root showProgress) = ∅ := by
      ext loc
      simp [sidecarLocations, reportsOf, hrun]
    rw [hempty, systemAfter, reportsOf, hrun]
    exact ⟨.refl fs, by simp⟩

/-- Where a sidecar was put, the name is that of a sidecar. -/
lemma exists_nameFor_of_mem {loc : Location}
    (h : loc ∈ sidecarLocations fs (reportsOf d fs root showProgress)) :
    ∃ directory bs hbs, loc = directory ++ [Sidecar.nameFor bs hbs] := by
  obtain ⟨p, sidecar, place, hmem, hplace, rfl⟩ := h
  obtain ⟨i, hi⟩ := List.getElem?_of_mem hmem
  obtain ⟨rfl, -⟩ := (framed_run d fs root showProgress).2 i p sidecar hi
  obtain ⟨-, -, bs, hbs, hname⟩ := Sidecar.hasDirectory_of_targetPlace hplace
  exact ⟨place.directory, bs, hbs, by rw [Place.location, hname]⟩

/-- After a scan of any file system with any dispatcher, everything is as it was, except for the
entries of the sidecars that were reported as written.  Each of these is a regular file with the
rendered metadata that the extractor returned for its media file.  No entry goes away, no temporary
file stays, and the entries of the names that the standard dispatcher routes are not changed by its
scans. -/
theorem changes_only_sidecars (d : Dispatcher) (fs : FileSystem) (root : Path)
    (showProgress : Bool) :
    (∀ loc, loc ∉ sidecarLocations fs (reportsOf d fs root showProgress) →
      (systemAfter d fs root showProgress).entryAt? loc = fs.entryAt? loc) ∧
    (∀ i p sidecar, (reportsOf d fs root showProgress)[i]? = some ⟨p, .written sidecar⟩ →
      Stored d fs (systemAt d fs root showProgress i) (systemAfter d fs root showProgress)
        p sidecar) ∧
    (∀ loc, (fs.entryAt? loc).isSome →
      ((systemAfter d fs root showProgress).entryAt? loc).isSome) ∧
    (∀ directory k, (systemAfter d fs root showProgress).entryAt?
        (directory ++ [Sidecar.temporaryName k]) =
      fs.entryAt? (directory ++ [Sidecar.temporaryName k])) ∧
    (∀ directory name, (Dispatcher.standard.route? (.ofPath ⟨name.bytes⟩)).isSome →
      (systemAfter Dispatcher.standard fs root showProgress).entryAt? (directory ++ [name]) =
        fs.entryAt? (directory ++ [name])) := by
  obtain ⟨hgrown, hstored⟩ := framed_run d fs root showProgress
  refine ⟨hgrown.entry_of_notMem, hstored, fun loc hloc => ?_, fun directory k => ?_,
    fun directory name hname => ?_⟩
  · by_cases hmem : loc ∈ sidecarLocations fs (reportsOf d fs root showProgress)
    · obtain ⟨mode, contents, hfile⟩ := hgrown.file_of_mem loc hmem
      rw [hfile]
      rfl
    · rwa [hgrown.entry_of_notMem loc hmem]
  · refine hgrown.entry_of_notMem _ fun hmem => ?_
    -- no sidecar has the name of a temporary file
    obtain ⟨directory', bs, hbs, heq⟩ := exists_nameFor_of_mem hmem
    obtain ⟨-, hname⟩ := List.append_inj' heq rfl
    rw [List.cons.injEq] at hname
    exact Sidecar.temporaryName_ne_nameFor k bs hbs hname.1
  · refine (framed_run _ fs root showProgress).1.entry_of_notMem _ fun hmem => ?_
    obtain ⟨directory', bs, hbs, heq⟩ := exists_nameFor_of_mem hmem
    obtain ⟨-, heq⟩ := List.append_inj' heq rfl
    rw [List.cons.injEq] at heq
    -- a name that is routed is not that of a sidecar
    have hextension : (MediaFile.ofPath ⟨name.bytes⟩).extension = "md" := by
      rw [heq.1]
      exact Sidecar.extension_pathFor ⟨bs⟩
    rw [Dispatcher.route?_eq_none_of_extension Dispatcher.standard_passesSidecars hextension] at hname
    simp at hname

end Sidecars.Scan
