import Sidecars.Proofs.Scan.Count
import Sidecars.Proofs.Scan.Coverage
import Sidecars.Proofs.Walk.Order

/-!
# Finding a report by its path

The reports of a scan are about paths in rising order, so there is one report at most on a path,
however it is spelled: the search for a report, which stops at the first one that fits, finds the
only one.

* `Scan.reportFor?_eq_some` and `Scan.reportFor?_eq_none` are the search among reports on different
  paths.
* `Scan.failures_eq` says that the failures are the reports about failures, in their order.
* `Scan.reports_addressable` puts this together for a whole scan.
-/

namespace Sidecars.Scan

open FileSystem

variable {d : Dispatcher} {fs : FileSystem} {root : Path} {showProgress : Bool}
  {items : List WalkItem} {s : Scan} {r : Report} {p : Path}

/-! ## The search -/

/-- A report is found under any spelling of its path if the other reports are on other paths. -/
lemma reportFor?_eq_some (hpaths : (s.reports.map Report.path).Pairwise Path.Before)
    (hr : r ∈ s.reports) (h : p.components = r.path.components) : s.reportFor? p = some r := by
  obtain ⟨before, after, hreports⟩ := List.append_of_mem hr
  rw [hreports, List.map_append, List.pairwise_append] at hpaths
  rw [reportFor?, List.find?_eq_some_iff_append]
  refine ⟨decide_eq_true h.symm, before, after, hreports, fun r' hr' => ?_⟩
  have hbefore : r'.path.Before r.path :=
    hpaths.2.2 _ (List.mem_map_of_mem hr') _ (List.mem_map_of_mem List.mem_cons_self)
  rw [Path.alike, h, decide_eq_false (Path.components_ne_of_before hbefore)]
  rfl

/-- Nothing is found under a path that no report is on. -/
lemma reportFor?_eq_none (h : ∀ r ∈ s.reports, r.path.components ≠ p.components) :
    s.reportFor? p = none := by
  rw [reportFor?, List.find?_eq_none]
  intro r hr halike
  exact h r hr (of_decide_eq_true halike)

/-! ## The failures -/

/-- The failures are the reports about failures, in their order. -/
lemma failures_eq (s : Scan) :
    s.failures.map (fun f => (⟨f.1, .failed f.2⟩ : Report)) =
      s.reports.filter fun r => r.outcome.isFailed := by
  rw [failures, List.map_filterMap, ← List.filterMap_eq_filter]
  refine congrArg (fun f => s.reports.filterMap f) (funext fun r => ?_)
  obtain ⟨p, outcome⟩ := r
  cases outcome <;> rfl

lemma length_failures (s : Scan) : s.failures.length = s.failed := by
  have h := congrArg List.length (failures_eq s)
  rw [List.length_map, ← List.countP_eq_length_filter] at h
  exact h

/-! ## The whole scan -/

/-- The reports are about what was met, in the same order. -/
lemma map_path_reports_stage :
    (stage d fs root showProgress items).reports.map Report.path = items.map WalkItem.path := by
  induction items using List.reverseRecOn with
  | nil => rfl
  | append_singleton items item ih =>
    rw [reports_stage_concat, List.map_append, ih, List.map_append]
    rfl

/-- A scan of a directory goes through, and no two of its reports are on the same path, be they on
files or on directories that could not be looked into.  A report is found under its path and under
every other spelling of it, and nothing is found under another path.  The failures are the reports
about failures, with their paths and their causes, and are counted as such.  All of this is in the
order of the walk, which goes up from path to path. -/
theorem reports_addressable (d : Dispatcher) (fs : FileSystem) (root : Path) (showProgress : Bool)
    (hdir : fs.isDirectory root = true) :
    ∃ s, run d fs root showProgress = .ok s ∧
      (∀ r ∈ s.reports, ∀ p : Path, p.components = r.path.components → s.reportFor? p = some r) ∧
      (∀ p : Path, (∀ r ∈ s.reports, r.path.components ≠ p.components) → s.reportFor? p = none) ∧
      (s.reports.map Report.path).Pairwise (fun p q => p.components ≠ q.components) ∧
      s.failures.map (fun f => (⟨f.1, .failed f.2⟩ : Report)) =
        (s.reports.filter fun r => r.outcome.isFailed) ∧
      s.failures.length = s.failed ∧
      s.reports.map Report.path = (itemsOf d fs root showProgress).map WalkItem.path ∧
      (s.reports.map Report.path).Pairwise Path.Before := by
  have hitems : (stage d fs root showProgress
      (itemsOf d fs root showProgress)).finish.reports.map Report.path =
        (itemsOf d fs root showProgress).map WalkItem.path := map_path_reports_stage
  have hpaths : ((stage d fs root showProgress
      (itemsOf d fs root showProgress)).finish.reports.map Report.path).Pairwise Path.Before := by
    rw [hitems]
    exact Walk.met_pairwise hdir
  exact ⟨_, run_of_isDirectory d showProgress hdir, fun r hr p => reportFor?_eq_some hpaths hr,
    fun p => reportFor?_eq_none, hpaths.imp Path.components_ne_of_before, failures_eq _,
    length_failures _, hitems, hpaths⟩

/-- The link of the album is found under another spelling of its path, and not under a path that
starts elsewhere. -/
theorem reports_addressable_linked :
    ∃ s r, run pictureDispatcher linkedSystem ⟨albumName.bytes⟩ true = .ok s ∧
      s.reports[1]? = some r ∧ r.path = .ofString "album/z" ∧
      s.reportFor? (.ofString "album//./z/") = some r ∧
      s.reportFor? (.ofString "./album/z") = none := by
  obtain ⟨s, hrun, hfound, hnone, -⟩ := reports_addressable pictureDispatcher linkedSystem
    ⟨albumName.bytes⟩ true (by decide +kernel)
  have hpaths : (run pictureDispatcher linkedSystem ⟨albumName.bytes⟩ true).toOption.map
      (fun s => s.reports.map Report.path) =
        some [.ofString "album/a.jpg", .ofString "album/z"] := by decide +kernel
  rw [hrun, Except.toOption, Option.map_some, Option.some.injEq] at hpaths
  obtain ⟨r₀, rest, hreports, hr₀, hrest⟩ := List.map_eq_cons_iff.1 hpaths
  obtain ⟨r, rest, rfl, hr, hrest⟩ := List.map_eq_cons_iff.1 hrest
  obtain rfl := List.map_eq_nil_iff.1 hrest
  refine ⟨s, r, hrun, by rw [hreports]; rfl, hr, hfound r (by simp [hreports]) _ ?_, hnone _ ?_⟩
  · rw [hr]
    decide +kernel
  · rw [hreports]
    simp only [List.mem_cons, List.not_mem_nil, or_false, forall_eq_or_imp, forall_eq]
    rw [hr₀, hr]
    decide +kernel

end Sidecars.Scan
