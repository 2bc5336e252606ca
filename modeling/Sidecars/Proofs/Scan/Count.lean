import Sidecars.Proofs.Scan.Isolation
import Sidecars.Proofs.Walk.Sighting

/-!
# How many files a scan meets

The bar of a scan is as long as the number of files that a walk counts before the scan, and goes one
step further with each report.  The scan itself lists a directory when it is entered and follows a
symbolic link when its turn comes, and by then sidecars may have been written.

As long as the root leads to a directory, the scan comes upon just what the walk before it came
upon, so the two numbers differ only by the links that lead to a file only then or only before.

* `Scan.turns` is what a scan comes upon, each with the file system as it is when its turn comes;
* `Scan.visit_eq_look` takes the scan apart into what it comes upon and what it does there;
* `Scan.run_count` compares the numbers.
-/

namespace Sidecars

namespace FileSystem

variable {fs fs' : FileSystem} {root : Path} {top a : Location} {S : Set Location}

/-- A directory shows the same in two file systems in which the same is told of its entries. -/
lemma list_eq_of_entries (h : fs.Opens root top a) (h' : fs'.Opens root top a)
    (hsame : ∀ name, fs'.entryAt? (top ++ a ++ [name]) = fs.entryAt? (top ++ a ++ [name])) :
    fs'.list (root.descend a) = fs.list (root.descend a) := by
  obtain ⟨n, hn, hdir⟩ := h
  obtain ⟨n', hn', hdir'⟩ := h'
  have hmem (name : Name) (kind : NodeKind) :
      (name, kind) ∈ listing n' ↔ (name, kind) ∈ listing n := by
    rw [mem_listing_iff_entry (get?_of_resolve hn'), mem_listing_iff_entry (get?_of_resolve hn),
      hsame]
  have hlisting : (listing n').filter (fun _ => true) = (listing n).filter (fun _ => true) :=
    filter_listing_eq fun name kind => by simp [hmem]
  rw [Opens.list hn hdir, Opens.list hn' hdir']
  simpa using hlisting

/-- A root that still leads to a directory leads to the one to which it has led. -/
lemma Grown.opens_root {n : Node} (h : fs.Grown S fs')
    (hroot : fs.resolve true root = .ok (.found top n)) (hdir : fs'.isDirectory root = true) :
    fs'.Opens root top [] := by
  obtain ⟨l, m, hm, hmdir⟩ := isDirectory_path_iff.1 hdir
  obtain ⟨n', hn', -⟩ := h.resolve_back hm hmdir
  rw [hroot, Except.ok.injEq, Spot.found.injEq] at hn'
  rw [← hn'.1] at hm
  exact ⟨m, by rwa [List.append_nil], hmdir⟩

end FileSystem

namespace Scan

open FileSystem

variable {d : Dispatcher} {fs : FileSystem} {root : Path} {showProgress : Bool}
  {top : Location} {met : Set Location} {items : List WalkItem}

/-! ## What a scan comes upon -/

/-- What a scan does with what it comes upon. -/
def look (d : Dispatcher) : Scan → Sight → Scan := Walk.look Scan.system (meet d)

/-- What a scan comes upon, each with the file system as it is when its turn comes. -/
def turns (d : Dispatcher) : Scan → List Sight → List (FileSystem × Sight)
  | _, [] => []
  | s, x :: xs => (s.system, x) :: turns d (look d s x) xs

/-- What there was for a scan to come upon below its root before it started, each with the file
system as it is when its turn comes. -/
def turnsOf (d : Dispatcher) (fs : FileSystem) (root : Path) (showProgress : Bool) :
    List (FileSystem × Sight) :=
  turns d (start fs root showProgress) (Walk.sightings fs Walk.maxDepth root .directory)

/-- How many links led to a file before the scan but no longer do when their turn comes. -/
def lost (fs : FileSystem) (ts : List (FileSystem × Sight)) : Nat :=
  ts.countP fun t => t.2.onlyIn fs t.1

/-- How many links lead to a file when their turn comes but did not before the scan. -/
def gained (fs : FileSystem) (ts : List (FileSystem × Sight)) : Nat :=
  ts.countP fun t => t.2.onlyIn t.1 fs

lemma filesScanned_look (s : Scan) (x : Sight) :
    (look d s x).filesScanned = s.filesScanned + (if (x.item? s.system).isSome then 1 else 0) := by
  unfold look Walk.look
  cases x.item? s.system with
  | none => rfl
  | some item => simp [meet]

/-- What is reported and what was counted before differ by the links that changed. -/
lemma filesScanned_foldl (s : Scan) (xs : List Sight) :
    (xs.foldl (look d) s).filesScanned + lost fs (turns d s xs) =
      s.filesScanned + (xs.filterMap (Sight.item? fs)).length + gained fs (turns d s xs) := by
  induction xs generalizing s with
  | nil => rfl
  | cons x xs ih =>
    -- a link that has changed is on one side as a report and on the other as lost or gained
    have hx : (if (x.item? s.system).isSome then 1 else 0) +
          (if x.onlyIn fs s.system then 1 else 0) =
        (if (x.item? fs).isSome then 1 else 0) + (if x.onlyIn s.system fs then 1 else 0) := by
      cases x with
      | file p => rfl
      | fault p e => rfl
      | link p =>
        cases hnow : s.system.isFile p <;> cases hthen : fs.isFile p <;>
          simp [Sight.item?, Sight.onlyIn, hnow, hthen]
    have hlength : ((x :: xs).filterMap (Sight.item? fs)).length =
        (xs.filterMap (Sight.item? fs)).length + if (x.item? fs).isSome then 1 else 0 := by
      cases hitem : x.item? fs <;> simp [hitem]
    have hrest := ih (look d s x)
    rw [filesScanned_look] at hrest
    rw [List.foldl_cons, hlength]
    unfold lost gained at hrest ⊢
    rw [turns, List.countP_cons, List.countP_cons]
    simp only
    omega

/-! ## The scan as a walk before it -/

/-- A root that is a directory behind an item has been one before it. -/
lemma isDirectory_of_meet {s : Scan} {item : WalkItem}
    (h : (meet d s item).system.isDirectory root = true) : s.system.isDirectory root = true := by
  obtain ⟨S, hgrown⟩ : ∃ S, s.system.Grown S (meet d s item).system :=
    exists_grown_processItem (.refl _) item
  obtain ⟨l, n, hn, hdir⟩ := isDirectory_path_iff.1 h
  obtain ⟨m, hm, hdir'⟩ := hgrown.resolve_back hn hdir
  exact isDirectory_path_iff.2 ⟨l, m, hm, hdir'⟩

/-- What is known of a scan on its way while its root leads to a directory: it is where a scan is
that only looks at what there was before it, and nothing but sidecars has changed. -/
def OnTrack (d : Dispatcher) (fs : FileSystem) (root : Path) (showProgress : Bool)
    (top : Location) (met : Set Location) (s s' : Scan) : Prop :=
  s.system.isDirectory root = true → s' = s ∧ ∃ items, s = stage d fs root showProgress items ∧
    Framed d fs root showProgress top met items

/-- Something that a scan looks at on its way. -/
lemma OnTrack.look {s s' : Scan} {x : Sight} {a : Location}
    (h : OnTrack d fs root showProgress top met s s')
    (hframed : ∀ items item, Framed d fs root showProgress top met items →
      x.item? (stage d fs root showProgress items).system = some item →
      ∃ met', (∀ y ∈ met', y ∈ met ∨ a <+: y) ∧
        Framed d fs root showProgress top met' (items ++ [item])) :
    Walk.Related (OnTrack d fs root showProgress top) met a (look d s x) (look d s' x) := by
  by_cases hdir : (Scan.look d s x).system.isDirectory root = true
  · -- the scan has been on track up to here
    have hbefore : s.system.isDirectory root = true := by
      unfold Scan.look Walk.look at hdir
      split at hdir
      · exact isDirectory_of_meet hdir
      · exact hdir
    obtain ⟨rfl, items, rfl, hitems⟩ := h hbefore
    cases hitem : x.item? (stage d fs root showProgress items).system with
    | none =>
      have hsame : Scan.look d (stage d fs root showProgress items) x =
          stage d fs root showProgress items := by
        rw [Scan.look, Walk.look, hitem]
      rw [hsame]
      exact ⟨met, fun y hy => .inl hy, fun _ => ⟨rfl, items, rfl, hitems⟩⟩
    | some item =>
      have hmeet : Scan.look d (stage d fs root showProgress items) x =
          stage d fs root showProgress (items ++ [item]) := by
        rw [Scan.look, Walk.look, hitem, stage_concat]
      obtain ⟨met', hmet', hframed'⟩ := hframed items item hitems hitem
      rw [hmeet]
      exact ⟨met', hmet', fun _ => ⟨rfl, _, rfl, hframed'⟩⟩
  · -- the root is lost, and nothing is said of the scan from here on
    exact ⟨met, fun y hy => .inl hy, fun h => absurd h hdir⟩

/-- What counts below an address is a file there. -/
lemma Framed.sight (h : Framed d fs root showProgress top met items) {a : Location}
    {kind : NodeKind} (hroot : fs.Opens root top []) (ha : fs.Listed root top a kind)
    (hkind : kind ≠ .directory) (hnew : ∀ x ∈ met, ¬ a <+: x) :
    ∃ met', (∀ y ∈ met', y ∈ met ∨ a <+: y) ∧
      Framed d fs root showProgress top met' (items ++ [.file (.ofPath (root.descend a))]) := by
  obtain ⟨parent, name, rfl, hparent⟩ := ha.exists_parent hroot hkind
  refine ⟨_, fun y hy => ?_, h.file hparent.leads hroot.bytes_ne_nil fun hmem =>
    hnew _ hmem (List.prefix_refl _)⟩
  rcases Set.mem_insert_iff.1 hy with rfl | hy
  · exact .inr (List.prefix_refl _)
  · exact .inl hy

/-- What is no directory is looked at. -/
lemma leaf_onTrack (hroot : fs.Opens root top []) (depth : Nat) {s s' : Scan} {a : Location}
    {kind : NodeKind} (h : OnTrack d fs root showProgress top met s s')
    (ha : fs.Listed root top a kind) (hkind : kind ≠ .directory) (hnew : ∀ x ∈ met, ¬ a <+: x) :
    Walk.Related (OnTrack d fs root showProgress top) met a
      (Walk.visit Scan.system (meet d) depth s (root.descend a) kind)
      ((Walk.sightings fs depth (root.descend a) kind).foldl (look d) s') := by
  cases kind with
  | directory => exact absurd rfl hkind
  | pipe =>
    rw [Walk.visit_pipe, Walk.sightings_pipe]
    exact ⟨met, fun y hy => .inl hy, h⟩
  | file =>
    rw [Walk.visit_file_eq_look, Walk.sightings_file]
    refine h.look fun items item hitems hitem => ?_
    obtain rfl : .file (.ofPath (root.descend a)) = item := by simpa [Sight.item?] using hitem
    exact hitems.sight hroot ha hkind hnew
  | link =>
    rw [Walk.visit_link_eq_look, Walk.sightings_link]
    refine h.look fun items item hitems hitem => ?_
    obtain ⟨-, rfl⟩ : _ ∧ .file (.ofPath (root.descend a)) = item := by
      simpa [Sight.item?] using hitem
    exact hitems.sight hroot ha hkind hnew

/-- A directory of which nothing has been met shows what it showed before the scan. -/
lemma Framed.list_eq (h : Framed d fs root showProgress top met items)
    (hroot : fs.Opens root top [])
    (hdir : (stage d fs root showProgress items).system.isDirectory root = true) {a : Location}
    (ha : fs.Listed root top a .directory) (hnew : ∀ x ∈ met, ¬ a <+: x) :
    (stage d fs root showProgress items).system.list (root.descend a) =
      fs.list (root.descend a) := by
  have hroot' : (stage d fs root showProgress items).system.Opens root top [] := by
    obtain ⟨n, hn, -⟩ := hroot
    rw [List.append_nil] at hn
    exact h.grown.opens_root hn hdir
  have hcarry : ∀ parent, fs.Opens root top parent →
      (stage d fs root showProgress items).system.Opens root top parent :=
    fun _ => Opens.carry hroot hroot' fun _ => h.entry_directory
  rcases fault_or_opens hroot hroot' ha (h.entry_directory ha.hasDirectory) hcarry with
    ⟨e, hnow, hthen⟩ | ⟨hnow, hthen⟩
  · rw [hnow, hthen]
  · exact list_eq_of_entries hthen hnow fun name => h.entry_child hnew name

/-- As long as its root leads to a directory, a scan looks at what a walk through the file system as
it was before comes upon. -/
theorem visit_onTrack (hroot : fs.Opens root top []) {depth : Nat} {s s' : Scan} {a : Location}
    {kind : NodeKind} (h : OnTrack d fs root showProgress top met s s')
    (ha : fs.Listed root top a kind) (hnew : ∀ x ∈ met, ¬ a <+: x) :
    Walk.Related (OnTrack d fs root showProgress top) met a
      (Walk.visit Scan.system (meet d) depth s (root.descend a) kind)
      ((Walk.sightings fs depth (root.descend a) kind).foldl (look d) s') := by
  induction depth generalizing met s s' a kind with
  | zero =>
    by_cases hkind : kind = .directory
    · subst hkind
      exact ⟨met, fun y hy => .inl hy, h⟩
    · exact leaf_onTrack hroot 0 h ha hkind hnew
  | succ depth ih =>
    by_cases hkind : kind = .directory
    · subst hkind
      by_cases hdir : (Walk.visit Scan.system (meet d) (depth + 1) s (root.descend a)
          .directory).system.isDirectory root = true
      · have hbefore : s.system.isDirectory root = true :=
          Walk.of_visit (P := fun s : Scan => s.system.isDirectory root = true)
            (fun _ _ => isDirectory_of_meet) hdir
        obtain ⟨rfl, items, rfl, hitems⟩ := h hbefore
        have hlist := hitems.list_eq hroot hbefore ha hnew
        -- both walks go through the entries that stood there before the scan
        rw [Walk.visit, Walk.sightings, hlist]
        cases hentries : fs.list (root.descend a) with
        | error e =>
          refine OnTrack.look (x := .fault (root.descend a) e) h fun items item hitems hitem =>
            ⟨met, fun y hy => .inl hy, ?_⟩
          obtain rfl : .fault (root.descend a) e = item := by simpa [Sight.item?] using hitem
          exact hitems.fault _ e
        | ok entries =>
          simp only [List.foldl_flatMap]
          refine Walk.entries_simulate entries (list_names_nodup hentries)
            (fun entry hentry met s s' h hnew => ?_) h hnew
          rw [← Path.descend_concat]
          exact ih h (ha.child hroot hentries hentry) hnew
      · exact ⟨met, fun y hy => .inl hy, fun hdir' => absurd hdir' hdir⟩
    · exact leaf_onTrack hroot _ h ha hkind hnew

/-- As long as its root leads to a directory, a scan does what it does with what there was before
it. -/
theorem fold_eq_foldl {n : Node} (hresolve : fs.resolve true root = .ok (.found top n))
    (hn : n.isDirectory = true) {s : Scan}
    (hs : Walk.fold Scan.system (meet d) root (start fs root showProgress) = s)
    (hdir : s.system.isDirectory root = true) :
    s = (Walk.sightings fs Walk.maxDepth root .directory).foldl (look d)
      (start fs root showProgress) := by
  have hroot : fs.Opens root top [] := ⟨n, by rwa [List.append_nil], hn⟩
  have hisdir : fs.isDirectory root = true := isDirectory_path_iff.2 ⟨top, n, hresolve, hn⟩
  have hstart : OnTrack d fs root showProgress top ∅ (start fs root showProgress)
      (start fs root showProgress) := fun _ => ⟨rfl, [], rfl, .nil⟩
  have hfold : Walk.fold Scan.system (meet d) root (start fs root showProgress) =
      Walk.visit Scan.system (meet d) Walk.maxDepth (start fs root showProgress)
        (root.descend []) .directory := Walk.fold_eq_visit hisdir
  obtain ⟨met, -, hmet⟩ := @visit_onTrack d fs root showProgress top ∅ hroot Walk.maxDepth
    (start fs root showProgress) (start fs root showProgress) [] .directory hstart hroot.listed
    fun x hx => absurd hx (Set.notMem_empty x)
  rw [← hfold, hs] at hmet
  exact (hmet hdir).1.symm

/-! ## What stood there before -/

/-- Whether an entry stands at a path that goes down from a root that leads to `top`, as far as the
path can be followed. -/
structure StandsBelow (fs : FileSystem) (root : Path) (top : Location) (p : Path) : Prop where
  /-- There is an entry where the path goes down to. -/
  entry : ∃ names, p = root.descend names ∧ (fs.entryAt? (top ++ names)).isSome = true
  /-- One who looks does not hear that there is none. -/
  linkStatus : fs.linkStatus p ≠ .error .noEntry

/-- A path that is not empty is not refused as one that leads to nothing. -/
lemma refusal?_ne_noEntry {p : Path} (hp : p.bytes ≠ []) : p.refusal? ≠ some .noEntry := by
  unfold Path.refusal?
  rw [if_neg hp]
  split
  · simp
  · split <;> simp

/-- A root that leads to something stands. -/
lemma standsBelow_root {n : Node} (h : fs.resolve true root = .ok (.found top n)) :
    StandsBelow fs root top root where
  entry := ⟨[], rfl, by rw [List.append_nil, entryAt?_eq, get?_of_resolve h]; rfl⟩
  linkStatus := by
    rcases linkStatus_of_status (status_eq_ok_iff.2 ⟨top, h⟩) with h | ⟨target, h⟩
    · simp [h]
    · simp [h]

/-- An entry of a directory is there, as far as its path can be followed. -/
lemma standsBelow_child {a : Location} {name : Name} {e : Entry}
    (ha : fs.Opens root top a) (he : fs.entryAt? (top ++ a ++ [name]) = some e) :
    StandsBelow fs root top (root.descend (a ++ [name])) := by
  refine ⟨⟨_, rfl, by rw [← List.append_assoc, he]; rfl⟩, ?_⟩
  have hjoin : ((root.descend a).join name.bytes).bytes ≠ [] :=
    fun h => ha.bytes_ne_nil (List.prefix_nil.1 (h ▸ Path.prefix_join _ _))
  obtain ⟨n, hn, hdir⟩ := ha
  rw [entryAt?_eq, Node.get?_concat (get?_of_resolve hn)] at he
  obtain ⟨m, hm, -⟩ := Option.map_eq_some_iff.1 he
  rw [Path.descend_concat, linkStatus, nodeAt]
  cases hrefusal : ((root.descend a).join name.bytes).refusal? with
  | some err =>
    rw [resolve, hrefusal]
    rintro h
    cases h
    exact refusal?_ne_noEntry hjoin hrefusal
  | none =>
    rw [resolve_join hn hdir hrefusal (by simp), lookIn]
    by_cases hlong : Name.maxLength < name.bytes.length
    · simp [hdir, hlong]
    · simp [hdir, hlong, hm]

/-- What a scan meets is where something stood before it. -/
theorem simulates_stood (hroot : root.bytes ≠ []) :
    Walk.Simulates root Scan.system (meet d)
      (fun items => (stage d fs root showProgress items).system)
      (fun items item => items ++ [item])
      (fun a kind => Known fs root top a kind ∧ StandsBelow fs root top (root.descend a))
      (fun _ => false)
      (fun met s items => (s = stage d fs root showProgress items ∧
        Framed d fs root showProgress top met items) ∧
        ∀ item ∈ items, StandsBelow fs root top item.path) where
  shows h ha hnew := (simulates_framed hroot).shows h.1 ha.1 hnew
  known := by
    rintro met s items a entries ⟨⟨rfl, h⟩, -⟩ ⟨ha, -⟩ hnew hlist e he
    refine ⟨(simulates_framed hroot).known ⟨rfl, h⟩ ha hnew hlist e he, ?_⟩
    have hleads : fs.Leads root top a := by simpa [Known] using ha
    obtain ⟨l, n, hn, hdir, rfl⟩ := list_eq_ok_iff.1 hlist
    obtain ⟨m, hm, hmdir⟩ := h.grown.resolve_back hn hdir
    obtain rfl := hleads.leads l m hm
    obtain ⟨entry, hentry, -⟩ := (mem_listing_iff_entry (get?_of_resolve hn)).1 he
    rw [h.entry_child hnew] at hentry
    exact standsBelow_child ⟨m, hm, hmdir⟩ hentry
  link h ha := (simulates_framed hroot).link h.1 ha.1
  file := by
    rintro met s items a kind ⟨h, hstood⟩ ⟨ha, hstands⟩ hkind hnew hextra
    refine ⟨(simulates_framed hroot).file h ha hkind hnew hextra, ?_⟩
    exact List.forall_mem_append.2 ⟨hstood, List.forall_mem_singleton.2 hstands⟩
  more h ha hnew hextra := by simp at hextra
  fault := by
    rintro met s items a e ⟨h, hstood⟩ ⟨ha, hstands⟩ hlist
    refine ⟨(simulates_framed hroot).fault h ha hlist, ?_⟩
    exact List.forall_mem_append.2 ⟨hstood, List.forall_mem_singleton.2 hstands⟩

/-! ## The whole scan -/

lemma progress_stage : (stage d fs root showProgress items).progress =
    if showProgress then some ⟨Walk.count fs root, items.length⟩ else none := by
  induction items using List.reverseRecOn with
  | nil => rfl
  | append_singleton items item ih =>
    rw [stage_concat]
    cases showProgress <;> simp [meet, ih]

lemma path_of_mem_stage {r : Report} (h : r ∈ (stage d fs root showProgress items).reports) :
    ∃ item ∈ items, r.path = item.path := by
  induction items using List.reverseRecOn with
  | nil => cases h
  | append_singleton items item ih =>
    rw [reports_stage_concat] at h
    rcases List.mem_append.1 h with h | h
    · obtain ⟨item', hitem', hpath⟩ := ih h
      exact ⟨item', List.mem_append_left _ hitem', hpath⟩
    · exact ⟨item, by simp, by rw [List.mem_singleton.1 h]⟩

/-- A scan of a directory goes through.  Its bar is as long as the number of files that a walk
counts before the scan and goes one step further with each report.  Every report is about an entry
that stood there before the scan, so no sidecar that is new is counted.  If the root still leads to
a directory in the end, then the number of reports is that of the files counted before, but for the
links that have changed when their turn comes: those that no longer lead to a file are missing, and
those that lead to one only then are reported as well.  The root does still lead to a directory
unless a sidecar took the place of a link. -/
theorem run_count (d : Dispatcher) (fs : FileSystem) (root : Path) (showProgress : Bool)
    (hdir : fs.isDirectory root = true) :
    ∃ s, run d fs root showProgress = .ok s ∧
      s.progress =
        (if showProgress then some ⟨Walk.count fs root, s.filesScanned⟩ else none) ∧
      (∃ top n, fs.resolve true root = .ok (.found top n) ∧
        ∀ r ∈ s.reports, StandsBelow fs root top r.path) ∧
      (s.system.isDirectory root = true →
        s.filesScanned + lost fs (turnsOf d fs root showProgress) =
          Walk.count fs root + gained fs (turnsOf d fs root showProgress)) ∧
      ((∀ loc ∈ sidecarLocations fs s.reports, ∀ target, fs.entryAt? loc ≠ some (.link target)) →
        s.system.isDirectory root = true) := by
  obtain ⟨top, n, hresolve, hn⟩ := isDirectory_path_iff.1 hdir
  have hopens : fs.Opens root top [] := ⟨n, by rwa [List.append_nil], hn⟩
  have hknown : Known fs root top [] .directory := by
    rw [Known, if_pos rfl]
    exact hopens.leads
  obtain ⟨met, ⟨hstage, hframed⟩, hstood⟩ := Walk.fold_simulates
    (@simulates_stood d fs root showProgress top hopens.bytes_ne_nil)
    (s := start fs root showProgress) (t := []) hdir hdir ⟨⟨rfl, .nil⟩, by simp⟩
    ⟨hknown, standsBelow_root hresolve⟩ rfl
  refine ⟨_, run_eq_ok_iff.2 ⟨hdir, rfl⟩, ?_, ⟨top, n, hresolve, fun r hr => ?_⟩, fun hafter => ?_,
    fun hlinks => ?_⟩
  · rw [finish, hstage, progress_stage, filesScanned_stage]
  · rw [finish, hstage] at hr
    obtain ⟨item, hitem, hpath⟩ := path_of_mem_stage hr
    rw [hpath]
    exact hstood item hitem
  · -- the scan comes to what the first walk saw, whatever it has written by then
    have hfold := fold_eq_foldl hresolve hn rfl hafter
    have hcount := @filesScanned_foldl d fs (start fs root showProgress)
      (Walk.sightings fs Walk.maxDepth root .directory)
    rw [← hfold, ← Walk.items_eq_filterMap hdir] at hcount
    have hstart : (start fs root showProgress).filesScanned = 0 := rfl
    rw [hstart, Nat.zero_add] at hcount
    exact hcount
  · rw [finish, hstage] at hlinks ⊢
    obtain ⟨n', hn', hdir'⟩ := hopens.grown hframed.grown fun l target hl => hlinks l hl target
    rw [List.append_nil] at hn'
    exact isDirectory_path_iff.2 ⟨top, n', hn', hdir'⟩

/-! ## Links and sidecars -/

/-- The name `z`. -/
def lastName : Name where
  bytes := Binary.ascii "z"
  plain := by decide

/-- The album with a link to the sidecar of its picture, which is not there yet. -/
def linkedSystem : FileSystem where
  root := .directory 0o755 [(albumName, .directory 0o755
    [(pictureName, .file 0o644 [0xFF]), (lastName, .link ⟨(Sidecar.nameOf pictureName).bytes⟩)])]
  current := []
  umask := 0o022

/-- A picture and an album of two files in a directory to which a link leads that stands where the
sidecar of the picture will be. -/
def returningSystem : FileSystem where
  root := .directory 0o755 [(pictureName, .file 0o644 [0xFF]),
    (Sidecar.nameOf pictureName, .link ⟨Binary.ascii "."⟩), (albumName, .directory 0o755
      [(pictureName, .file 0o644 [0xFF]), (lastName, .file 0o644 [])])]
  current := []
  umask := 0o022

/-- The link is the one that the scan reports and the walk before it does not count. -/
theorem run_count_linked :
    ∃ s, run pictureDispatcher linkedSystem ⟨albumName.bytes⟩ true = .ok s ∧
      s.system.isDirectory ⟨albumName.bytes⟩ = true ∧
      s.filesScanned +
          lost linkedSystem (turnsOf pictureDispatcher linkedSystem ⟨albumName.bytes⟩ true) =
        Walk.count linkedSystem ⟨albumName.bytes⟩ +
          gained linkedSystem (turnsOf pictureDispatcher linkedSystem ⟨albumName.bytes⟩ true) := by
  obtain ⟨s, hrun, -, -, hcount, -⟩ :=
    run_count pictureDispatcher linkedSystem ⟨albumName.bytes⟩ true (by decide +kernel)
  have hafter : (run pictureDispatcher linkedSystem ⟨albumName.bytes⟩ true).toOption.any
      (fun s => s.system.isDirectory ⟨albumName.bytes⟩) = true := by decide +kernel
  rw [hrun] at hafter
  exact ⟨s, hrun, hafter, hcount hafter⟩

/-- A link to a sidecar is reported without having been counted, and an album is lost when the way
to it leads through a link that a sidecar replaces. -/
theorem run_differs_from_count :
    (linkedSystem.isDirectory ⟨albumName.bytes⟩ = true ∧
      ∃ s, run pictureDispatcher linkedSystem ⟨albumName.bytes⟩ true = .ok s ∧
        s.progress = some ⟨1, 2⟩ ∧ s.filesScanned = 2 ∧
        Walk.count linkedSystem ⟨albumName.bytes⟩ = 1) ∧
    (returningSystem.isDirectory ⟨(Sidecar.nameOf pictureName).bytes⟩ = true ∧
      ∃ s, run pictureDispatcher returningSystem ⟨(Sidecar.nameOf pictureName).bytes⟩ true =
          .ok s ∧
        s.progress = some ⟨3, 2⟩ ∧ s.filesScanned = 2 ∧
        Walk.count returningSystem ⟨(Sidecar.nameOf pictureName).bytes⟩ = 3) := by
  have hlinked : linkedSystem.isDirectory ⟨albumName.bytes⟩ = true := by decide +kernel
  have hreturning : returningSystem.isDirectory ⟨(Sidecar.nameOf pictureName).bytes⟩ = true := by
    decide +kernel
  refine ⟨⟨hlinked, _, run_eq_ok_iff.2 ⟨hlinked, rfl⟩, ?_, ?_, ?_⟩,
    ⟨hreturning, _, run_eq_ok_iff.2 ⟨hreturning, rfl⟩, ?_, ?_, ?_⟩⟩
  · decide +kernel
  · decide +kernel
  · decide +kernel
  · decide +kernel
  · decide +kernel
  · decide +kernel

end Scan

end Sidecars
