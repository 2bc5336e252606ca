import Sidecars.Proofs.Scan.Frame
import Sidecars.Proofs.Walk.Rooted

/-!
# A scan attempts everything

What goes wrong with one file does not keep a scan from the others.  Every item that the walk meets
is dealt with in the file system that the items before it have left, and gives one report.  The walk
meets every file that stood below the root before the scan, unless a directory above it cannot be
looked into when its turn comes.

* `Scan.itemsOf` are the items that a scan meets; `Scan.getElem?_reports_stage` says what is
  reported of each.
* `Scan.Hidden` says that a directory above an address could not be looked into, and
  `Scan.Hidden.barred` for which reasons that can be.
* `Scan.Covers` collects what a whole scan has done, and `Scan.covers` says that every scan has.
-/

namespace Sidecars.Scan

open FileSystem

variable {d : Dispatcher} {fs : FileSystem} {root : Path} {showProgress : Bool}
  {top a : Location} {items : List WalkItem} {kind : NodeKind}

/-! ## Item by item -/

/-- What a scan meets. -/
def itemsOf (d : Dispatcher) (fs : FileSystem) (root : Path) (showProgress : Bool) :
    List WalkItem :=
  Walk.met Scan.system (meet d) root (start fs root showProgress)

/-- A scan has met its items in the end. -/
lemma fold_eq_stage (d : Dispatcher) (fs : FileSystem) (root : Path) (showProgress : Bool) :
    Walk.fold Scan.system (meet d) root (start fs root showProgress) =
      stage d fs root showProgress (itemsOf d fs root showProgress) :=
  Walk.fold_eq_foldl_met Scan.system (meet d) root (start fs root showProgress)

/-- A scan of a directory goes through what it meets. -/
lemma run_of_isDirectory (d : Dispatcher) (showProgress : Bool)
    (h : fs.isDirectory root = true) : run d fs root showProgress =
      .ok (stage d fs root showProgress (itemsOf d fs root showProgress)).finish := by
  rw [run_eq_ok_iff, fold_eq_stage]
  exact ⟨h, rfl⟩

/-- The report of a number is about the item of the same number, which was dealt with after those
before it. -/
lemma getElem?_reports_stage (i : Nat) : (stage d fs root showProgress items).reports[i]? =
    items[i]?.map fun item =>
      ⟨item.path, (nextProcessed d fs root showProgress (items.take i) item).outcome⟩ := by
  induction items using List.reverseRecOn with
  | nil => rfl
  | append_singleton items item ih =>
    have hlength : (stage d fs root showProgress items).reports.length = items.length :=
      length_reports_stage
    rw [reports_stage_concat]
    rcases Nat.lt_trichotomy i items.length with hi | rfl | hi
    · rw [List.getElem?_append_left (by omega), List.getElem?_append_left hi, ih,
        List.take_append_of_le_length hi.le]
    · rw [List.getElem?_append_right hlength.le, hlength, List.getElem?_concat_length,
        List.take_left, Nat.sub_self]
      rfl
    · rw [List.getElem?_eq_none (by simp; omega), List.getElem?_eq_none (by simp; omega)]
      rfl

/-- Nothing but files is added on the way. -/
lemma exists_grown_stage_append (d : Dispatcher) (fs : FileSystem) (root : Path)
    (showProgress : Bool) (items more : List WalkItem) :
    ∃ S, (stage d fs root showProgress items).system.Grown S
      (stage d fs root showProgress (items ++ more)).system := by
  induction more using List.reverseRecOn with
  | nil =>
    rw [List.append_nil]
    exact ⟨∅, .refl _⟩
  | append_singleton more item ih =>
    obtain ⟨S, hgrown⟩ := ih
    rw [← List.append_assoc, system_stage_concat]
    exact exists_grown_processItem hgrown item

lemma exists_grown_stage (d : Dispatcher) (fs : FileSystem) (root : Path) (showProgress : Bool)
    (items : List WalkItem) : ∃ S, fs.Grown S (stage d fs root showProgress items).system :=
  exists_grown_stage_append d fs root showProgress [] items

/-! ## What stood below the root -/

/-- Whether some items tell of a directory above an address that could not be looked into when its
turn came. -/
def Hidden (d : Dispatcher) (fs : FileSystem) (root : Path) (showProgress : Bool)
    (items : List WalkItem) (a : Location) : Prop :=
  ∃ i b e, items[i]? = some (.fault (root.descend b) e) ∧ b <+: a ∧ b ≠ a ∧
    (stage d fs root showProgress (items.take i)).system.list (root.descend b) = .error e

lemma Hidden.concat (h : Hidden d fs root showProgress items a) (item : WalkItem) :
    Hidden d fs root showProgress (items ++ [item]) a := by
  obtain ⟨i, b, e, hi, habove, hne, hlist⟩ := h
  obtain ⟨hlt, -⟩ := List.getElem?_eq_some_iff.1 hi
  refine ⟨i, b, e, ?_, habove, hne, ?_⟩
  · rwa [List.getElem?_append_left hlt]
  · rwa [List.take_append_of_le_length hlt.le]

lemma hidden_concat {b : Location} {e : Errno} (habove : b <+: a) (hne : b ≠ a)
    (h : (stage d fs root showProgress items).system.list (root.descend b) = .error e) :
    Hidden d fs root showProgress (items ++ [.fault (root.descend b) e]) a :=
  ⟨items.length, b, e, List.getElem?_concat_length, habove, hne, by rwa [List.take_left]⟩

/-- Why a directory above an address cannot be looked into: its path is refused, a name in it is too
long, or a sidecar stands now where a link stood, by way of which the root may have been found. -/
inductive Barred (fs : FileSystem) (root : Path) (a : Location) (after : FileSystem) : Prop where
  /-- The path is refused. -/
  | path (b : Location) (above : b <+: a) (ne : b ≠ a) (refused : (root.descend b).refusal? ≠ none)
  /-- A name is too long. -/
  | name (b : Location) (above : b <+: a) (ne : b ≠ a) (name : Name) (mem : name ∈ b)
      (long : Name.maxLength < name.bytes.length)
  /-- A sidecar took the place of a link. -/
  | link (l : Location) (target : Path) (mode : Nat) (contents : Bytes)
      (before : fs.entryAt? l = some (.link target))
      (now : after.entryAt? l = some (.file mode contents))

/-- There is no other reason for which something is hidden. -/
theorem Hidden.barred (h : Hidden d fs root showProgress items a) (hroot : fs.Opens root top [])
    (ha : (fs.entryAt? (top ++ a)).isSome) :
    Barred fs root a (stage d fs root showProgress items).system := by
  obtain ⟨i, b, e, -, habove, hne, hlist⟩ := h
  by_contra hfree
  have hdirectory : fs.HasDirectory (top ++ b) := by
    obtain ⟨c, rfl⟩ := habove
    cases c with
    | nil => exact absurd (List.append_nil b).symm hne
    | cons name c =>
      obtain ⟨e, he⟩ := Option.isSome_iff_exists.1 ha
      rw [← List.append_assoc] at he
      exact hasDirectory_of_below he
  have hopens : fs.Opens root top b := by
    refine hroot.of_hasDirectory hdirectory ?_ ?_
    · by_contra hrefused
      exact hfree (.path b habove hne hrefused)
    · intro name hname
      by_contra hlong
      exact hfree (.name b habove hne name hname (Nat.lt_of_not_le hlong))
  -- a link that was gone at that time is gone in the end
  obtain ⟨S, hgrown⟩ := exists_grown_stage d fs root showProgress (items.take i)
  obtain ⟨S', hgrown'⟩ :=
    exists_grown_stage_append d fs root showProgress (items.take i) (items.drop i)
  rw [List.take_append_drop] at hgrown'
  have hlinks : ∀ l target, l ∈ S → fs.entryAt? l ≠ some (.link target) := by
    intro l target hl hlink
    obtain ⟨mode, contents, hfile⟩ := hgrown.file_of_mem l hl
    obtain ⟨mode', contents', hfile'⟩ := hgrown'.file_of_file hfile
    exact hfree (.link l target mode' contents' hlink hfile')
  obtain ⟨n, hn, hdir⟩ := hopens.grown hgrown hlinks
  rw [Opens.list hn hdir] at hlist
  simp at hlist

/-- What becomes of an entry in a scan that has met some items: it was met, or it is hidden.  Of a
link there is a third possibility, that it led to no file when its turn came. -/
inductive Attempted (d : Dispatcher) (fs : FileSystem) (root : Path) (showProgress : Bool)
    (items : List WalkItem) (a : Location) (kind : NodeKind) : Prop where
  /-- It was met. -/
  | met (mem : .file (.ofPath (root.descend a)) ∈ items)
  /-- It is hidden. -/
  | hidden (hidden : Hidden d fs root showProgress items a)
  /-- It was a link that led to no file. -/
  | broken (link : kind = .link) (i : Nat) (turn : i ≤ items.length)
      (noFile : (stage d fs root showProgress (items.take i)).system.isFile (root.descend a) = false)

lemma Attempted.concat (h : Attempted d fs root showProgress items a kind) (item : WalkItem) :
    Attempted d fs root showProgress (items ++ [item]) a kind := by
  cases h with
  | met mem => exact .met (List.mem_append_left _ mem)
  | hidden hidden => exact .hidden (hidden.concat item)
  | broken link i turn noFile =>
    refine .broken link i ?_ ?_
    · rw [List.length_append]
      omega
    · rwa [List.take_append_of_le_length turn]

/-- A walk that comes to a file or to a link makes the attempt. -/
lemma attempted_visit {now : NodeKind} (hnow : now = .file ∨ now = .link ∧ kind = .link)
    (depth : Nat) :
    Attempted d fs root showProgress
      (Walk.visit (fun items => (stage d fs root showProgress items).system)
        (fun items item => items ++ [item]) depth items (root.descend a) now) a kind := by
  have hmet : Attempted d fs root showProgress
      (items ++ [.file (.ofPath (root.descend a))]) a kind := .met (by simp)
  rcases hnow with rfl | ⟨rfl, hlink⟩
  · rw [Walk.visit_file]
    exact hmet
  · rw [Walk.visit_link]
    split
    · exact hmet
    · next hfile =>
      refine .broken hlink items.length (Nat.le_refl _) ?_
      rw [List.take_length]
      exact Bool.eq_false_iff.2 hfile

/-- Every file and every link that stood below the root is attempted. -/
theorem attempted_itemsOf {n : Node} (hroot : fs.resolve true root = .ok (.found top n))
    (hn : n.isDirectory = true) {e : Entry} (he : fs.entryAt? (top ++ a) = some e)
    (hkind : e.kind = .file ∨ e.kind = .link) :
    Attempted d fs root showProgress (itemsOf d fs root showProgress) a e.kind := by
  have hreaches : Walk.Reaches fs root top a
      (fun items => (stage d fs root showProgress items).system)
      (fun items item => items ++ [item])
      fun items => Attempted d fs root showProgress items a e.kind := by
    refine ⟨exists_grown_stage d fs root showProgress, fun _ item h => h.concat item, ?_,
      fun items b _ habove hne hlist => .hidden (hidden_concat habove hne hlist)⟩
    -- a file stays one, and a link stays a link or a sidecar takes its place
    intro S fs' e' hgrown he' depth items
    refine attempted_visit ?_ depth
    by_cases hS : top ++ a ∈ S
    · obtain ⟨mode, contents, hfile⟩ := hgrown.file_of_mem _ hS
      rw [hfile, Option.some.injEq] at he'
      exact .inl (by rw [← he', Entry.kind])
    · rw [hgrown.entry_of_notMem _ hS, he, Option.some.injEq] at he'
      rw [← he']
      rcases hkind with hfile | hlink
      · exact .inl hfile
      · exact .inr ⟨hlink, hlink⟩
  have hnil : a ≠ [] := by
    rintro rfl
    obtain ⟨mode, hmode⟩ := hasDirectory_iff.2 ⟨n, get?_of_resolve hroot, hn⟩
    rw [List.append_nil, hmode, Option.some.injEq] at he
    simp [← he, Entry.kind] at hkind
  exact hreaches.fold hroot hn hnil (by simp [he]) rfl

/-! ## The whole scan -/

/-- What a scan has done: every item has been dealt with in its turn, and everything was
attempted. -/
structure Covers (d : Dispatcher) (fs : FileSystem) (root : Path) (showProgress : Bool) (s : Scan) :
    Prop where
  /-- The reports are on the items, each dealt with in the file system as it was in its turn. -/
  report : ∀ i, s.reports[i]? = (itemsOf d fs root showProgress)[i]?.map fun item =>
    Report.mk item.path (processItem d (systemAt d fs root showProgress i) item).outcome
  /-- The first item meets the file system as it was before the scan. -/
  first : systemAt d fs root showProgress 0 = fs
  /-- What one item leaves, the next one meets, whatever came of the first. -/
  next : ∀ i item, (itemsOf d fs root showProgress)[i]? = some item →
    systemAt d fs root showProgress (i + 1) =
      (processItem d (systemAt d fs root showProgress i) item).system
  /-- The file system is the one that the last item leaves. -/
  last : s.system = systemAt d fs root showProgress (itemsOf d fs root showProgress).length
  /-- Every file and every link that stood below the root was attempted. -/
  attempted : ∀ top n a e, fs.resolve true root = .ok (.found top n) →
    fs.entryAt? (top ++ a) = some e → e.kind = .file ∨ e.kind = .link →
    Attempted d fs root showProgress (itemsOf d fs root showProgress) a e.kind
  /-- Nothing is hidden without a reason. -/
  barred : ∀ top n a, fs.resolve true root = .ok (.found top n) → (fs.entryAt? (top ++ a)).isSome →
    Hidden d fs root showProgress (itemsOf d fs root showProgress) a → Barred fs root a s.system

/-- A scan whose root is a directory goes through and attempts everything. -/
theorem covers (d : Dispatcher) (showProgress : Bool) (hdir : fs.isDirectory root = true) :
    ∃ s, run d fs root showProgress = .ok s ∧ Covers d fs root showProgress s := by
  refine ⟨_, run_of_isDirectory d showProgress hdir, ?_⟩
  have hroot {top : Location} {n : Node} (h : fs.resolve true root = .ok (.found top n)) :
      n.isDirectory = true := by
    obtain ⟨l, m, hm, hmdir⟩ := isDirectory_path_iff.1 hdir
    rw [hm, Except.ok.injEq, Spot.found.injEq] at h
    rwa [← h.2]
  refine ⟨getElem?_reports_stage, rfl, ?_, ?_, ?_, ?_⟩
  · intro i item hitem
    have htake : (itemsOf d fs root showProgress).take (i + 1) =
        (itemsOf d fs root showProgress).take i ++ [item] := by
      rw [List.take_add_one, hitem, Option.toList_some]
    show (stage d fs root showProgress ((itemsOf d fs root showProgress).take (i + 1))).system = _
    rw [htake, system_stage_concat]
    rfl
  · show _ = (stage d fs root showProgress ((itemsOf d fs root showProgress).take _)).system
    rw [List.take_length]
    rfl
  · intro top n a e hresolve he hkind
    exact attempted_itemsOf hresolve (hroot hresolve) he hkind
  · intro top n a hresolve ha hhidden
    exact hhidden.barred ⟨n, by rwa [List.append_nil], hroot hresolve⟩ ha

end Sidecars.Scan
