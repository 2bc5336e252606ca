import Sidecars.Proofs.Scan.Isolation

/-!
# Scanning again

A second scan of the same directory finds the sidecars of the first one and leaves everything as it
is.

* `Scan.Extends` compares the walks of the two scans: the second one meets what the first one met,
  and in between the new sidecars.
* `Scan.run_again` puts this together with what is known of each scan.
-/

namespace Sidecars.Scan

open FileSystem

variable {d : Dispatcher} {fs : FileSystem} {root : Path} {showProgress : Bool}
  {top a : Location} {name : Name} {met : Set Location}

/-- A scan that has gone through all items. -/
abbrev scanned (d : Dispatcher) (fs : FileSystem) (root : Path) (showProgress : Bool) : Scan :=
  stage d fs root showProgress (Walk.items fs root)

/-- Whether a sidecar of some reports stands at an address where there was no regular file. -/
def New (fs : FileSystem) (reports : List Report) (top a : Location) : Prop :=
  top ++ a ∈ sidecarLocations fs reports ∧
    ∀ mode contents, fs.entryAt? (top ++ a) ≠ some (.file mode contents)

/-- Whether a path is that of a new sidecar. -/
def NewPath (fs : FileSystem) (reports : List Report) (root : Path) (top : Location) (p : Path) :
    Prop :=
  ∃ a, New fs reports top a ∧ p = root.descend a

/-! ## The items of the second walk -/

lemma newPath_descend {reports : List Report} (hroot : root.bytes ≠ []) :
    NewPath fs reports root top (root.descend a) ↔ New fs reports top a := by
  constructor
  · rintro ⟨b, hb, heq⟩
    rwa [Path.descend_injective hroot heq]
  · exact fun h => ⟨a, h, rfl⟩

open Classical in
/-- Whether some items are others with new sidecars in between. -/
structure Extends (fs : FileSystem) (reports : List Report) (root : Path) (top : Location)
    (met : Set Location) (items' items : List WalkItem) : Prop where
  /-- Without the new sidecars the items are the same. -/
  old : items = items'.filter fun item => decide (¬ NewPath fs reports root top item.path)
  /-- No new sidecar is met twice. -/
  nodup : ((items'.filter fun item => decide (NewPath fs reports root top item.path)).map
    WalkItem.path).Nodup
  /-- A new sidecar is met as a file. -/
  new : ∀ item ∈ items', NewPath fs reports root top item.path →
    ∃ a ∈ met, item = .file (.ofPath (root.descend a))

namespace Extends

variable {reports : List Report} {items' items : List WalkItem} {item : WalkItem}

lemma nil : Extends fs reports root top ∅ [] [] where
  old := rfl
  nodup := List.nodup_nil
  new _ hitem := absurd hitem List.not_mem_nil

/-- Both walks meet an item that is no new sidecar. -/
lemma both (h : Extends fs reports root top met items' items) {met' : Set Location}
    (hmet : met ⊆ met') (hitem : ¬ NewPath fs reports root top item.path) :
    Extends fs reports root top met' (items' ++ [item]) (items ++ [item]) where
  old := by
    rw [List.filter_append, ← h.old]
    simp [hitem]
  nodup := by
    rw [List.filter_append]
    simpa [hitem] using h.nodup
  new other hother hnew := by
    rcases List.mem_append.1 hother with hother | hother
    · obtain ⟨a, ha, heq⟩ := h.new other hother hnew
      exact ⟨a, hmet ha, heq⟩
    · rw [List.mem_singleton.1 hother] at hnew
      exact absurd hnew hitem

/-- The second walk meets a new sidecar. -/
lemma more (h : Extends fs reports root top met items' items) (hroot : root.bytes ≠ [])
    (ha : New fs reports top a) (hnew : a ∉ met) :
    Extends fs reports root top (insert a met)
      (items' ++ [.file (.ofPath (root.descend a))]) items where
  old := by
    have hpath : NewPath fs reports root top
        (WalkItem.file (.ofPath (root.descend a))).path := ⟨a, ha, rfl⟩
    rw [List.filter_append, ← h.old]
    simp [hpath]
  nodup := by
    have hpath : NewPath fs reports root top
        (WalkItem.file (.ofPath (root.descend a))).path := ⟨a, ha, rfl⟩
    rw [List.filter_append, List.map_append, List.nodup_append]
    refine ⟨h.nodup, by simp [hpath], fun p hp q hq heq => ?_⟩
    obtain ⟨item, hitem, rfl⟩ := List.mem_map.1 hp
    obtain ⟨hitem, hdecide⟩ := List.mem_filter.1 hitem
    have hold : NewPath fs reports root top item.path := by simpa using hdecide
    obtain ⟨b, hb, rfl⟩ := h.new item hitem hold
    obtain ⟨other, hother, rfl⟩ := List.mem_map.1 hq
    rw [List.mem_singleton.1 (List.mem_filter.1 hother).1] at heq
    exact hnew (Path.descend_injective hroot heq ▸ hb)
  new other hother hpath := by
    rcases List.mem_append.1 hother with hother | hother
    · obtain ⟨b, hb, heq⟩ := h.new other hother hpath
      exact ⟨b, Set.mem_insert_of_mem _ hb, heq⟩
    · exact ⟨a, Set.mem_insert _ _, List.mem_singleton.1 hother⟩

end Extends

/-- What stands at a location that the first scan did not fill with a new sidecar is shown by both
walks in the same way. -/
lemma exists_kind_iff (h : fs.Rooted root top) {reports : List Report} {fs' : FileSystem}
    (hgrown : fs.Grown (sidecarLocations fs reports) fs') {kind : NodeKind}
    (hkind : kind ≠ .pipe) :
    (∃ e, fs.entryAt? (top ++ a) = some e ∧ e.kind = kind) ↔
      (∃ e, fs'.entryAt? (top ++ a) = some e ∧ e.kind = kind) ∧ ¬ New fs reports top a := by
  by_cases hmem : top ++ a ∈ sidecarLocations fs reports
  · obtain ⟨mode, contents, hfile⟩ := hgrown.file_of_mem _ hmem
    constructor
    · rintro ⟨e, he, rfl⟩
      cases e with
      | file mode' contents' =>
        exact ⟨⟨_, hfile, rfl⟩, fun hnew => hnew.2 mode' contents' he⟩
      | directory mode' => exact absurd ⟨mode', he⟩ (hgrown.old_of_mem _ hmem)
      | link target => exact absurd he (h.noLink a target)
      | pipe mode' => exact absurd rfl hkind
    · rintro ⟨⟨e, he, rfl⟩, hnew⟩
      rw [hfile, Option.some.injEq] at he
      subst he
      have hold : ∃ mode' contents', fs.entryAt? (top ++ a) = some (.file mode' contents') := by
        by_contra hnot
        exact hnew ⟨hmem, fun mode' contents' hold => hnot ⟨mode', contents', hold⟩⟩
      obtain ⟨mode', contents', hold⟩ := hold
      exact ⟨_, hold, rfl⟩
  · rw [hgrown.entry_of_notMem _ hmem]
    exact ⟨fun he => ⟨he, fun hnew => hmem hnew.1⟩, fun he => he.1⟩

/-- A directory that the second walk is shown was shown to the first one. -/
lemma listed_back {S : Set Location} {fs' : FileSystem} (hgrown : fs.Grown S fs')
    (ha : fs'.Listed root top a .directory) : fs.Listed root top a .directory := by
  obtain ⟨mode, hmode⟩ := (hgrown.hasDirectory_iff _).1 ha.hasDirectory
  refine ⟨⟨_, hmode, rfl⟩, ?_⟩
  rcases ha.2 with hnil | ⟨parent, name, heq, hparent⟩
  · exact .inl hnil
  · exact .inr ⟨parent, name, heq, hparent.back hgrown⟩

open Classical in
/-- The walk after a scan meets what the walk before it met, and the new sidecars. -/
theorem simulates_extends (hroot : fs.Rooted root top) {reports : List Report} {fs' : FileSystem}
    (hgrown : fs.Grown (sidecarLocations fs reports) fs')
    (hstart : ∀ l ∈ sidecarLocations fs reports, top <+: l) :
    Walk.Simulates root (fun _ => fs') (fun items item => items ++ [item]) (fun _ => fs)
      (fun items item => items ++ [item]) (fs'.Listed root top)
      (fun a => decide (New fs reports top a)) (Extends fs reports root top) where
  shows := by
    intro met items' items a h ha hnew
    have hroot' := hroot.grown hgrown hstart
    have hlisted := listed_back hgrown ha
    have hopens : ∀ parent, fs.Opens root top parent → fs'.Opens root top parent := by
      refine fun parent hparent => hparent.grown hgrown fun l target hl => ?_
      obtain ⟨names, rfl⟩ := hstart l hl
      exact hroot.noLink names target
    have hentry := hgrown.entry_of_notMem (top ++ a) fun hmem =>
      hgrown.old_of_mem _ hmem hlisted.hasDirectory
    -- a directory shows what it showed before, and its new sidecars as files
    rcases fault_or_opens hroot.opens hroot'.opens hlisted hentry hopens with
      ⟨e, hfault', hfault⟩ | ⟨hopens', hopens⟩
    · rw [hfault', hfault]
      exact .fault e
    · refine shows_of_entries hopens' hopens (fun name kind hkind => ?_) fun name e hmore he => ?_
      · rw [List.append_assoc, exists_kind_iff hroot hgrown hkind, decide_eq_false_iff_not]
      · obtain ⟨mode, contents, hfile⟩ := hgrown.file_of_mem _ (of_decide_eq_true hmore).1
        rw [List.append_assoc, hfile, Option.some.injEq] at he
        rw [← he]
        rfl
  known _ ha _ hlist e he := ha.child (hroot.grown hgrown hstart).opens hlist he
  link := by
    intro met items' items a h ha
    obtain ⟨e, he, hkind⟩ := ha.1
    cases e with
    | link target => exact absurd he ((hroot.grown hgrown hstart).noLink a target)
    | file mode contents => simp [Entry.kind] at hkind
    | directory mode => simp [Entry.kind] at hkind
    | pipe mode => simp [Entry.kind] at hkind
  file := by
    intro met items' items a kind h ha hkind hnew hextra
    refine h.both (Set.subset_insert _ _) fun hpath => ?_
    exact of_decide_eq_false hextra ((newPath_descend hroot.bytes_ne_nil).1 hpath)
  more := by
    intro met items' items a h ha hnew hextra
    exact h.more hroot.bytes_ne_nil (of_decide_eq_true hextra)
      fun hmem => hnew a hmem (List.prefix_refl a)
  fault := by
    intro met items' items a e h ha hlist
    refine h.both subset_rfl fun hpath => ?_
    have hmem := ((newPath_descend hroot.bytes_ne_nil).1 hpath).1
    exact hgrown.old_of_mem _ hmem (listed_back hgrown ha).hasDirectory

/-! ## The outcomes of the second scan -/

section

variable (hroot : fs.Rooted root top) (hd : d.PassesSidecars) (hx : d.DependsOnContents)
  (h : Isolated d fs root showProgress top met (Walk.items fs root))

include hroot hd h

/-- A file for which the second scan writes a sidecar was met by the first one. -/
lemma mem_items_of_written (ha : (scanned d fs root showProgress).system.Opens root top a)
    {mode : Nat} {contents : Bytes}
    (hfile : (scanned d fs root showProgress).system.entryAt? (top ++ a ++ [name]) =
      some (.file mode contents)) {sidecar : Path}
    (hwritten : (process d (scanned d fs root showProgress).system
      (.ofPath (root.descend (a ++ [name])))).outcome = .written sidecar) :
    .file (.ofPath (root.descend (a ++ [name]))) ∈ Walk.items fs root := by
  obtain ⟨route, -, -, -, hroute, -⟩ := process_written hwritten
  rw [h.framed.grown.entry_of_notMem _
    (h.framed.onlySidecars.routed_notMem hd hroute (top ++ a))] at hfile
  exact Walk.mem_items hroot (ha.back h.framed.grown) hfile

include hx

/-- What was met by the first scan has the same outcome in the second one. -/
lemma outcome_again {item : WalkItem} (hitem : item ∈ Walk.items fs root) :
    (processItem d (scanned d fs root showProgress).system item).outcome =
      (processItem d fs item).outcome := by
  cases item with
  | fault p e => rfl
  | file file =>
    obtain ⟨a, name, -, -, hfile, hopens, -⟩ := Walk.found_of_mem_items hroot hitem
    exact (process_alike hd hx h.framed.grown h.framed.onlySidecars hopens
      (h.framed.opens hroot hopens) (hroot.noLink_child a name) hfile).1

/-- Writing the sidecar of a file again leaves the sidecar as it is. -/
lemma entry_written_again (ha : fs.Opens root top a)
    (hitem : .file (.ofPath (root.descend (a ++ [name]))) ∈ Walk.items fs root) {sidecar : Path}
    {place : Place} (hwritten : (process d fs (.ofPath (root.descend (a ++ [name])))).outcome =
      .written sidecar) (hplace : Sidecar.targetPlace fs sidecar = .ok place) :
    (process d (scanned d fs root showProgress).system
        (.ofPath (root.descend (a ++ [name])))).system.entryAt? place.location =
      (scanned d fs root showProgress).system.entryAt? place.location := by
  have hreported : (⟨root.descend (a ++ [name]), .written sidecar⟩ : Report) ∈
      (scanned d fs root showProgress).reports := by
    rw [h.reports]
    exact List.mem_map.2 ⟨_, hitem, congrArg (Report.mk _) hwritten⟩
  have halone := h.alone _ _ _ hreported hplace
  have hopens := h.framed.opens hroot ha
  obtain ⟨-, halike⟩ := process_alike hd hx h.framed.grown h.framed.onlySidecars ha hopens
    (hroot.noLink_child a name) rfl
  rw [halone]
  refine halike sidecar place hwritten hplace ?_
  -- the sidecar that is there has the mode that the first scan gave it
  obtain ⟨_, _, _, place', -, -, -, hpath, hplace', hbecomes⟩ := process_written hwritten
  obtain rfl : sidecar = root.descend (a ++ [Sidecar.nameOf name]) :=
    hpath.trans (Sidecar.pathFor_descend root a name)
  rw [hplace, Except.ok.injEq] at hplace'
  subst hplace'
  have hfile := halone.trans hbecomes.entry_self
  rw [ha.place_eq hplace] at hfile
  have hsame := ha.targetPlace_eq hopens
    (h.framed.grown.hasDirectory_iff (top ++ a ++ [Sidecar.nameOf name]))
  exact hopens.sidecarMode_of_file (hsame.trans hplace) hfile

/-- The second scan changes nothing. -/
theorem entry_again (showAgain : Bool) {met' : Set Location}
    (h' : Isolated d (scanned d fs root showProgress).system root showAgain top met'
      (Walk.items (scanned d fs root showProgress).system root)) (loc : Location) :
    (scanned d (scanned d fs root showProgress).system root showAgain).system.entryAt? loc =
      (scanned d fs root showProgress).system.entryAt? loc := by
  have hroot' := h.framed.rooted hroot
  by_cases hloc : loc ∈ sidecarLocations (scanned d fs root showProgress).system
      (scanned d (scanned d fs root showProgress).system root showAgain).reports
  · obtain ⟨p, sidecar, place, hmem, hplace, rfl⟩ := hloc
    rw [h'.alone p sidecar place hmem hplace]
    rw [h'.reports] at hmem
    obtain ⟨item, hitem, hreport⟩ := List.mem_map.1 hmem
    rw [Report.mk.injEq] at hreport
    obtain ⟨rfl, houtcome⟩ := hreport
    cases item with
    | fault p e => exact absurd houtcome Outcome.noConfusion
    | file file =>
      obtain ⟨a, name, mode, contents, rfl, hopens', hfile⟩ :=
        Walk.found_of_mem_items hroot' hitem
      have hold := mem_items_of_written hroot hd h hopens' hfile houtcome
      have hopens := hopens'.back h.framed.grown
      have hwritten := (outcome_again hroot hd hx h hold).symm.trans houtcome
      have hpath : sidecar = root.descend (a ++ [Sidecar.nameOf name]) := by
        obtain ⟨-, -, -, -, -, -, -, rfl, -⟩ := process_written hwritten
        exact Sidecar.pathFor_descend root a name
      have hplace' : Sidecar.targetPlace fs sidecar = .ok place := by
        rw [hpath] at hplace ⊢
        rw [← hplace, hopens.targetPlace_eq hopens' (h.framed.grown.hasDirectory_iff _)]
      exact entry_written_again hroot hd hx h hopens hold hwritten hplace'
  · exact h'.framed.grown.entry_of_notMem loc hloc

end

/-! ## The reports of the second scan -/

section

variable (hroot : fs.Rooted root top)
  (h : Isolated d fs root showProgress top met (Walk.items fs root))

include hroot h

/-- The new sidecars are those of the reports where there was no regular file. -/
lemma newPath_iff {p : Path} : NewPath fs (scanned d fs root showProgress).reports root top p ↔
    (∃ q, (⟨q, .written p⟩ : Report) ∈ (scanned d fs root showProgress).reports) ∧
      fs.isFile p = false := by
  constructor
  · rintro ⟨x, ⟨⟨q, sidecar, place, hmem, hplace, hlocation⟩, hnot⟩, rfl⟩
    have hmem' := hmem
    rw [h.reports] at hmem'
    obtain ⟨a, name, -, hopens, rfl, hplace'⟩ := exists_file_of_written hroot hmem'
    rw [hplace, Except.ok.injEq] at hplace'
    rw [hplace', Place.location, List.append_assoc, List.append_cancel_left_eq] at hlocation
    subst hlocation
    refine ⟨⟨q, hmem⟩, ?_⟩
    rw [← Bool.not_eq_true, hopens.isFile_iff (hroot.noLink_child a _) hplace]
    rintro ⟨mode, contents, hfile⟩
    rw [List.append_assoc] at hfile
    exact hnot mode contents hfile
  · rintro ⟨⟨q, hmem⟩, hnot⟩
    have hmem' := hmem
    rw [h.reports] at hmem'
    obtain ⟨a, name, -, hopens, rfl, hplace⟩ := exists_file_of_written hroot hmem'
    refine ⟨_, ⟨⟨q, _, _, hmem, hplace, List.append_assoc _ _ _⟩, fun mode contents hfile => ?_⟩,
      rfl⟩
    rw [← List.append_assoc] at hfile
    rw [(hopens.isFile_iff (hroot.noLink_child a _) hplace).2 ⟨mode, contents, hfile⟩] at hnot
    exact Bool.noConfusion hnot

/-- The walk of the second scan meets the new sidecars. -/
lemma exists_item_of_newPath {p : Path}
    (hp : NewPath fs (scanned d fs root showProgress).reports root top p) :
    .file (.ofPath p) ∈ Walk.items (scanned d fs root showProgress).system root := by
  obtain ⟨x, ⟨hmem, -⟩, rfl⟩ := hp
  obtain ⟨mode, contents, hfile⟩ := h.framed.grown.file_of_mem _ hmem
  obtain ⟨q, sidecar, place, hreport, hplace, hlocation⟩ := hmem
  rw [h.reports] at hreport
  obtain ⟨a, name, -, hopens, rfl, hplace'⟩ := exists_file_of_written hroot hreport
  rw [hplace, Except.ok.injEq] at hplace'
  rw [hplace', Place.location, List.append_assoc, List.append_cancel_left_eq] at hlocation
  subst hlocation
  rw [← List.append_assoc] at hfile
  exact Walk.mem_items (h.framed.rooted hroot) (h.framed.opens hroot hopens) hfile

/-- A new sidecar goes no route. -/
lemma outcome_new (hd : d.PassesSidecars) {p : Path} (fs' : FileSystem)
    (hp : NewPath fs (scanned d fs root showProgress).reports root top p) :
    (process d fs' (.ofPath p)).outcome = .unsupported ".md" := by
  obtain ⟨⟨q, hmem⟩, -⟩ := (newPath_iff hroot h).1 hp
  rw [h.reports] at hmem
  obtain ⟨a, name, -, -, rfl, -⟩ := exists_file_of_written hroot hmem
  have hextension : (MediaFile.ofPath (root.descend (a ++ [Sidecar.nameOf name]))).extension =
      "md" := by
    rw [← Sidecar.pathFor_descend]
    exact Sidecar.extension_pathFor _
  rw [process, Dispatcher.route?_eq_none_of_extension hd hextension]
  simp only [MediaFile.dotted, hextension]
  rfl

open Classical in
/-- The items of the second walk are those of the first one and the new sidecars. -/
lemma exists_extends : ∃ met', Extends fs (scanned d fs root showProgress).reports root top met'
    (Walk.items (scanned d fs root showProgress).system root) (Walk.items fs root) := by
  have hsimulates := simulates_extends hroot h.framed.grown fun _ => h.framed.prefix_of_mem
  refine Walk.fold_simulates hsimulates (s := []) (t := []) (h.framed.rooted hroot).isDirectory
    hroot.isDirectory .nil (h.framed.rooted hroot).opens.listed (decide_eq_false fun hnew => ?_)
  exact h.framed.grown.old_of_mem _ hnew.1 hroot.opens.leads.directory

/-- The first scan has reported what is no new sidecar. -/
lemma mem_paths_iff {item : WalkItem}
    (hitem : item ∈ Walk.items (scanned d fs root showProgress).system root) :
    item.path ∈ (scanned d fs root showProgress).reports.map Report.path ↔
      ¬ NewPath fs (scanned d fs root showProgress).reports root top item.path := by
  obtain ⟨met', hextends⟩ := exists_extends hroot h
  have hpaths : (scanned d fs root showProgress).reports.map Report.path =
      (Walk.items fs root).map WalkItem.path := by
    rw [h.reports, List.map_map]
    rfl
  rw [hpaths, List.mem_map, hextends.old]
  simp only [List.mem_filter, decide_eq_true_eq]
  constructor
  · rintro ⟨other, ⟨-, hother⟩, heq⟩
    rwa [heq] at hother
  · exact fun hnot => ⟨item, ⟨hitem, hnot⟩, rfl⟩

/-- What the first scan has reported is reported again. -/
lemma filter_old_reports (hd : d.PassesSidecars) (hx : d.DependsOnContents) :
    (((Walk.items (scanned d fs root showProgress).system root).map fun item =>
        (⟨item.path, (processItem d (scanned d fs root showProgress).system item).outcome⟩ :
          Report)).filter
      fun r => r.path ∈ (scanned d fs root showProgress).reports.map Report.path) =
      (scanned d fs root showProgress).reports := by
  classical
  obtain ⟨met', hextends⟩ := exists_extends hroot h
  have hfilter : ((Walk.items (scanned d fs root showProgress).system root).filter fun item =>
      decide (item.path ∈ (scanned d fs root showProgress).reports.map Report.path)) =
        Walk.items fs root := by
    conv_rhs => rw [hextends.old]
    exact List.filter_congr fun item hitem => decide_eq_decide.2 (mem_paths_iff hroot h hitem)
  rw [List.filter_map]
  refine (congrArg (List.map _) hfilter).trans ?_
  conv_rhs => rw [h.reports]
  exact List.map_congr_left fun item hitem =>
    congrArg (Report.mk item.path) (outcome_again hroot hd hx h hitem)

open Classical in
/-- The paths of the further reports are those of the new sidecars that the second walk meets. -/
lemma filter_further_paths :
    (((Walk.items (scanned d fs root showProgress).system root).map fun item =>
        (⟨item.path, (processItem d (scanned d fs root showProgress).system item).outcome⟩ :
          Report)).filter
      fun r => r.path ∉ (scanned d fs root showProgress).reports.map Report.path).map Report.path =
      ((Walk.items (scanned d fs root showProgress).system root).filter fun item =>
        decide (NewPath fs (scanned d fs root showProgress).reports root top item.path)).map
          WalkItem.path := by
  have hfilter : ((Walk.items (scanned d fs root showProgress).system root).filter fun item =>
      decide (item.path ∉ (scanned d fs root showProgress).reports.map Report.path)) =
        (Walk.items (scanned d fs root showProgress).system root).filter fun item =>
          decide (NewPath fs (scanned d fs root showProgress).reports root top item.path) :=
    List.filter_congr fun item hitem => decide_eq_decide.2
      ((mem_paths_iff hroot h hitem).not.trans not_not)
  rw [List.filter_map, List.map_map]
  exact congrArg (List.map _) hfilter

/-- How the reports of the second scan compare with those of the first one. -/
lemma reports_again (hd : d.PassesSidecars) (hx : d.DependsOnContents) {s' : Scan}
    (hs' : s'.reports = (Walk.items (scanned d fs root showProgress).system root).map fun item =>
      ⟨item.path, (processItem d (scanned d fs root showProgress).system item).outcome⟩) :
    (s'.reports.filter fun r =>
        r.path ∈ (scanned d fs root showProgress).reports.map Report.path) =
      (scanned d fs root showProgress).reports ∧
    (∀ r ∈ s'.reports, r.path ∉ (scanned d fs root showProgress).reports.map Report.path →
      r.outcome = .unsupported ".md") ∧
    ((s'.reports.filter fun r =>
      r.path ∉ (scanned d fs root showProgress).reports.map Report.path).map Report.path).Nodup ∧
    ∀ p, p ∈ (s'.reports.filter fun r =>
        r.path ∉ (scanned d fs root showProgress).reports.map Report.path).map Report.path ↔
      (∃ q, (⟨q, .written p⟩ : Report) ∈ (scanned d fs root showProgress).reports) ∧
        fs.isFile p = false := by
  obtain ⟨met'', hextends⟩ := exists_extends hroot h
  rw [hs']
  refine ⟨filter_old_reports hroot h hd hx, fun r hr hnot => ?_, ?_, fun p => ?_⟩
  · obtain ⟨item, hitem, rfl⟩ := List.mem_map.1 hr
    have hnew := not_not.1 ((mem_paths_iff hroot h hitem).not.1 hnot)
    obtain ⟨a, -, rfl⟩ := hextends.new item hitem hnew
    exact outcome_new hroot h hd _ hnew
  · rw [filter_further_paths hroot h]
    exact hextends.nodup
  · rw [filter_further_paths hroot h, ← newPath_iff hroot h, List.mem_map]
    constructor
    · rintro ⟨item, hitem, rfl⟩
      simpa using (List.mem_filter.1 hitem).2
    · intro hnew
      have hpath : NewPath fs (scanned d fs root showProgress).reports root top
          (WalkItem.file (.ofPath p)).path := hnew
      refine ⟨_, List.mem_filter.2 ⟨exists_item_of_newPath hroot h hnew, ?_⟩, rfl⟩
      simpa using hpath

end

/-! ## The whole scan -/

/-- If there are no links below the root, no route is for sidecars, and the extractors depend on
nothing but the path and the contents of a file, then a scan that follows another one changes
nothing.  What the first scan has reported is reported again, in the same order and with the same
outcomes.  What is reported besides are the sidecars that the first scan has put where there was no
regular file, each once and as unsupported.  If chance says something else at the second time, this
makes no difference but for the names of temporary files. -/
theorem run_again (hroot : fs.Rooted root top) (hd : d.PassesSidecars)
    (hx : d.DependsOnContents) (showProgress showAgain : Bool) :
    ∃ s s', run d fs root showProgress = .ok s ∧ run d s.system root showAgain = .ok s' ∧
      (∀ chance, ∃ s'', run d (s.system.withChance chance) root showAgain = .ok s'' ∧
        s'.SameButNames chance s'') ∧
      (∀ loc, s'.system.entryAt? loc = s.system.entryAt? loc) ∧
      (s'.reports.filter fun r => r.path ∈ s.reports.map Report.path) = s.reports ∧
      (∀ r ∈ s'.reports, r.path ∉ s.reports.map Report.path → r.outcome = .unsupported ".md") ∧
      ((s'.reports.filter fun r => r.path ∉ s.reports.map Report.path).map Report.path).Nodup ∧
      ∀ p, p ∈ (s'.reports.filter fun r => r.path ∉ s.reports.map Report.path).map Report.path ↔
        (∃ q, (⟨q, .written p⟩ : Report) ∈ s.reports) ∧ fs.isFile p = false := by
  obtain ⟨hrun, met, h⟩ := run_eq_stage hroot hd hx showProgress
  obtain ⟨hrun', met', h'⟩ := run_eq_stage (h.framed.rooted hroot) hd hx showAgain
  have hreports := reports_again hroot h hd hx h'.reports
  exact ⟨_, _, hrun, hrun', exists_run_withChance hx.ignoresChance hrun',
    fun loc => entry_again hroot hd hx h showAgain h' loc, hreports⟩

/-- The album stays as it is when it is scanned again.  The second scan meets the two sidecars of
the first one besides, and both fail with the same two files. -/
theorem run_again_album :
    ∃ s s', run pictureDispatcher albumSystem ⟨albumName.bytes⟩ false = .ok s ∧
      run pictureDispatcher s.system ⟨albumName.bytes⟩ true = .ok s' ∧
      (s.failed = 2 ∧ s'.failed = 2 ∧ s'.filesScanned = s.filesScanned + 2) ∧
      ∀ loc, s'.system.entryAt? loc = s.system.entryAt? loc := by
  obtain ⟨s, s', hrun, hrun', -, hsame, -⟩ := run_again albumSystem_rooted
    pictureDispatcher_passesSidecars pictureDispatcher_dependsOnContents false true
  have hcounts : (run pictureDispatcher albumSystem ⟨albumName.bytes⟩ false).toOption.map
      (fun s => (s.failed, s.filesScanned,
        (run pictureDispatcher s.system ⟨albumName.bytes⟩ true).toOption.map fun s' =>
          (s'.failed, s'.filesScanned))) = some (2, 4, some (2, 6)) := by decide +kernel
  rw [hrun] at hcounts
  obtain ⟨hfailed, hfiles, hcounts'⟩ : s.failed = 2 ∧ s.filesScanned = 4 ∧
      (run pictureDispatcher s.system ⟨albumName.bytes⟩ true).toOption.map
        (fun s' => (s'.failed, s'.filesScanned)) = some (2, 6) := by
    simpa [Except.toOption] using hcounts
  rw [hrun'] at hcounts'
  obtain ⟨hfailed', hfiles'⟩ : s'.failed = 2 ∧ s'.filesScanned = 6 := by
    simpa [Except.toOption] using hcounts'
  exact ⟨s, s', hrun, hrun', ⟨hfailed, hfailed', by rw [hfiles, hfiles']⟩, hsame⟩

end Sidecars.Scan
