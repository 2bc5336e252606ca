import Sidecars.Proofs.Sidecar.Writing
import Sidecars.Scan

/-!
# What one item does to a scan

A file is dealt with in one of two ways: either its sidecar is written, and then the dispatcher, the
extractor and the renderer have all done their part, or nothing is different afterwards.

* `process_written` and `process_not_written` say so of one file;
* `Scan.stage` is a scan that has met some items, the last of which gave the last report.
-/

namespace Sidecars

/-- What is true if a sidecar was written. -/
theorem process_written {d : Dispatcher} {fs : FileSystem} {file : MediaFile} {sidecar : Path}
    (h : (process d fs file).outcome = .written sidecar) :
    ∃ route m text place, d.route? file = some route ∧
      route.extractor fs file.path = .ok (.metadata m) ∧ Frontmatter.render m = .ok text ∧
      sidecar = Sidecar.pathFor file.path ∧ Sidecar.targetPlace fs sidecar = .ok place ∧
      fs.Becomes place.location
        (some (.file (Sidecar.sidecarMode fs sidecar) (Text.Utf8.encode text)))
        (process d fs file).system := by
  unfold process at h ⊢
  cases hroute : d.route? file with
  | none => simp [hroute] at h
  | some route =>
    cases hextract : route.extractor fs file.path with
    | error e => simp [hroute, hextract] at h
    | ok finding =>
      cases finding with
      | nothing => simp [hroute, hextract] at h
      | never => simp [hroute, hextract] at h
      | metadata m =>
        cases hwrite : Sidecar.write fs file.path m with
        | mk fs' result =>
          cases result with
          | error e => simp [hroute, hextract, hwrite] at h
          | ok s =>
            simp only [hroute, hextract, hwrite, Outcome.written.injEq] at h ⊢
            subst h
            have hok : (Sidecar.write fs file.path m).2 = .ok s := by rw [hwrite]
            obtain ⟨hpath, text, place, htext, hplace, hbecomes⟩ := Sidecar.write_ok hok
            rw [hwrite] at hbecomes
            refine ⟨route, m, String.ofList text, place, rfl, hextract,
              Frontmatter.render_ofList htext, hpath, hplace, ?_⟩
            rwa [Text.Utf8.encode_ofList]

/-- Nothing is different if no sidecar was written. -/
theorem process_not_written {d : Dispatcher} {fs : FileSystem} {file : MediaFile}
    (h : ∀ sidecar, (process d fs file).outcome ≠ .written sidecar) :
    (process d fs file).system = fs := by
  unfold process at h ⊢
  cases hroute : d.route? file with
  | none => rfl
  | some route =>
    cases hextract : route.extractor fs file.path with
    | error e => simp [hextract]
    | ok finding =>
      cases finding with
      | nothing => simp [hextract]
      | never => simp [hextract]
      | metadata m =>
        cases hwrite : Sidecar.write fs file.path m with
        | mk fs' result =>
          cases result with
          | ok s => simp [hroute, hextract, hwrite] at h
          | error e =>
            have herror : (Sidecar.write fs file.path m).1 = fs :=
              Sidecar.write_error (e := e) (by rw [hwrite])
            simp only [hextract, hwrite]
            rwa [hwrite] at herror

namespace Scan

variable {d : Dispatcher} {fs : FileSystem} {root : Path} {showProgress : Bool}
  {items : List WalkItem} {item : WalkItem}

/-! ## Some items -/

/-- A scan that has met some items. -/
def stage (d : Dispatcher) (fs : FileSystem) (root : Path) (showProgress : Bool)
    (items : List WalkItem) : Scan :=
  items.foldl (meet d) (start fs root showProgress)

/-- What comes of an item whose turn comes after some others. -/
def nextProcessed (d : Dispatcher) (fs : FileSystem) (root : Path) (showProgress : Bool)
    (items : List WalkItem) (item : WalkItem) : Processed :=
  processItem d (stage d fs root showProgress items).system item

lemma stage_concat : stage d fs root showProgress (items ++ [item]) =
    meet d (stage d fs root showProgress items) item := by
  rw [stage, List.foldl_append]
  rfl

lemma system_stage_concat : (stage d fs root showProgress (items ++ [item])).system =
    (nextProcessed d fs root showProgress items item).system := by
  rw [stage_concat]
  rfl

lemma reports_stage_concat : (stage d fs root showProgress (items ++ [item])).reports =
    (stage d fs root showProgress items).reports ++
      [⟨item.path, (nextProcessed d fs root showProgress items item).outcome⟩] := by
  rw [stage_concat]
  rfl

lemma length_reports_stage : (stage d fs root showProgress items).reports.length =
    items.length := by
  induction items using List.reverseRecOn with
  | nil => rfl
  | append_singleton items item ih =>
    rw [reports_stage_concat, List.length_append, List.length_append, ih]
    rfl

/-- What has been met is counted. -/
lemma filesScanned_stage : (stage d fs root showProgress items).filesScanned = items.length := by
  induction items using List.reverseRecOn with
  | nil => rfl
  | append_singleton items item ih =>
    rw [stage_concat, List.length_append, ← ih]
    rfl

/-- What is counted is what is reported. -/
lemma filesScanned_eq : (stage d fs root showProgress items).filesScanned =
    (stage d fs root showProgress items).reports.length := by
  rw [filesScanned_stage, length_reports_stage]

/-- The last report is about the last item. -/
lemma getElem?_reports_stage_concat {i : Nat} {r : Report}
    (h : (stage d fs root showProgress (items ++ [item])).reports[i]? = some r) :
    (i < items.length ∧ (stage d fs root showProgress items).reports[i]? = some r) ∨
      (i = items.length ∧
        r = ⟨item.path, (nextProcessed d fs root showProgress items item).outcome⟩) := by
  rw [reports_stage_concat] at h
  have hlength : (stage d fs root showProgress items).reports.length = items.length :=
    length_reports_stage
  rcases Nat.lt_trichotomy i items.length with hi | hi | hi
  · rw [List.getElem?_append_left (by omega)] at h
    exact .inl ⟨hi, h⟩
  · rw [List.getElem?_append_right (by omega), hlength, hi, Nat.sub_self] at h
    exact .inr ⟨hi, by simpa using h.symm⟩
  · rw [List.getElem?_eq_none (by simp; omega)] at h
    simp at h

/-! ## Runs -/

/-- A scan goes through when its root is a directory. -/
lemma run_eq_ok_iff {s : Scan} :
    run d fs root showProgress = .ok s ↔ fs.isDirectory root = true ∧
      s = (Walk.fold Scan.system (meet d) root (start fs root showProgress)).finish := by
  unfold run
  by_cases hdir : fs.isDirectory root = true
  · have hexists : fs.pathExists root = true := by
      unfold FileSystem.pathExists
      obtain ⟨loc, n, hresolve, -⟩ := FileSystem.isDirectory_path_iff.1 hdir
      rw [FileSystem.status_eq_ok_iff.2 ⟨loc, hresolve⟩]
      rfl
    rw [if_neg (not_not.2 hexists), if_neg (not_not.2 hdir), Except.ok.injEq]
    exact ⟨fun h => ⟨hdir, h.symm⟩, fun h => h.2.symm⟩
  · constructor
    · intro h
      split at h
      · simp at h
      · simp at h
    · rintro ⟨h, -⟩
      exact absurd h hdir

end Scan

end Sidecars
