import Sidecars.Proofs.Program.Status

/-!
# The log of a scan

Between its first and its last line, the log of a scan has one line for each report, in the order of
the reports: a warning about what the walk could not look into, an error about a file with which
something else went wrong, and otherwise the path of the file or the extension for which there is no
route.  Details are logged in one case only, in front of the line about the same file.

* `Scan.Tells` is the line for a report, and `Scan.processItem_tells` finds it in what is logged
  about one item.
* `Scan.Chronicle` has the lines for some reports one after the other, and `Scan.stage_chronicle`
  says of a scan on its way that its log has them.
* `Scan.log_tells_reports` says so of a whole scan.
-/

namespace Sidecars.Scan

variable {d : Dispatcher} {fs : FileSystem} {root : Path} {showProgress : Bool}
  {items : List WalkItem} {item : WalkItem} {r : Report} {line : LogRecord}

/-! ## The lines -/

/-- The line that tells of a report, from what was met and what came of it. -/
inductive Tells (d : Dispatcher) : WalkItem → Report → LogRecord → Prop where
  /-- The walk could not look into something. -/
  | fault (p : Path) (e : Errno) :
    Tells d (.fault p e) ⟨p, .failed (.walk p e)⟩
      ⟨.warn, s!"Error accessing {p.display}: {e.messageOn p}"⟩
  /-- Something went wrong with a file on its route. -/
  | failed (file : MediaFile) (route : Route) (cause : Error) (h : d.route? file = some route) :
    Tells d (.file file) ⟨file.path, .failed cause⟩
      ⟨.error, s!"Error processing {route.kind.word} file {file.path.display}: {cause.message}"⟩
  /-- There is no route. -/
  | unsupported (file : MediaFile) (h : d.route? file = none) :
    Tells d (.file file) ⟨file.path, .unsupported file.dotted⟩
      ⟨.info, s!"Unsupported file type: {file.dotted}"⟩
  /-- There is a sidecar. -/
  | written (file : MediaFile) (sidecar : Path) :
    Tells d (.file file) ⟨file.path, .written sidecar⟩
      ⟨.info, s!"Processing file: {file.path.display}"⟩
  /-- There is no metadata. -/
  | noMetadata (file : MediaFile) :
    Tells d (.file file) ⟨file.path, .noMetadata⟩
      ⟨.info, s!"Processing file: {file.path.display}"⟩

/-- The lines that tell of some reports, one for each and in the same order. -/
inductive Chronicle (d : Dispatcher) : List WalkItem → List Report → List LogRecord → Prop where
  /-- Nothing was met. -/
  | nil : Chronicle d [] [] []
  /-- One more item was met. -/
  | concat {items : List WalkItem} {reports : List Report} {lines : List LogRecord}
      {item : WalkItem} {r : Report} {line : LogRecord} (before : Chronicle d items reports lines)
      (tells : Tells d item r line) :
    Chronicle d (items ++ [item]) (reports ++ [r]) (lines ++ [line])

/-- Whether details stand in a log only where a file of some format cannot have metadata, each in
front of the line about the same file. -/
def Remarked (log : List LogRecord) : Prop :=
  ∀ (i : Nat) (r : LogRecord), log[i]? = some r → r.passes .info = false →
    ∃ p : Path, r = ⟨.debug, s!"No EXIF container: {p.display}"⟩ ∧
      log[i + 1]? = some ⟨.info, s!"Processing file: {p.display}"⟩

/-- How many of some reports have an outcome of some sort. -/
def tally (reports : List Report) (sort : Outcome → Bool) : Nat :=
  (reports.filter fun r => sort r.outcome).length

/-- The line at the end of a scan, with the number of the reports and of those with each sort of
outcome. -/
def completion (reports : List Report) : LogRecord :=
  ⟨.info, s!"Scan completed: {reports.length} files scanned, {tally reports Outcome.isWritten} sidecars written, {tally reports Outcome.isNoMetadata} without metadata, {tally reports Outcome.isUnsupported} unsupported, {tally reports Outcome.isFailed} failed"⟩

lemma Tells.passes (h : Tells d item r line) : line.passes .info = true := by
  cases h <;> rfl

/-! ## One item -/

/-- What is logged about an item is the line that tells of it, behind a remark if the file has no
metadata because of its format. -/
theorem processItem_tells (d : Dispatcher) (fs : FileSystem) (item : WalkItem) :
    ∃ line, Tells d item ⟨item.path, (processItem d fs item).outcome⟩ line ∧
      ((processItem d fs item).log = [line] ∨
        (processItem d fs item).log = [containerRecord item.path, line] ∧
          line = processingRecord item.path) := by
  cases item with
  | fault p e => exact ⟨_, .fault p e, .inl rfl⟩
  | file file =>
    show ∃ line, Tells d (.file file) ⟨file.path, (process d fs file).outcome⟩ line ∧
      ((process d fs file).log = [line] ∨
        (process d fs file).log = [containerRecord file.path, line] ∧
          line = processingRecord file.path)
    unfold process
    cases hroute : d.route? file with
    | none => exact ⟨_, .unsupported file hroute, .inl rfl⟩
    | some route =>
      cases hextract : route.extractor fs file.path with
      | error e =>
        simp only [hextract]
        exact ⟨_, .failed file route e hroute, .inl rfl⟩
      | ok finding =>
        simp only [hextract]
        cases finding with
        | nothing => exact ⟨_, .noMetadata file, .inl rfl⟩
        | never => exact ⟨_, .noMetadata file, .inr ⟨rfl, rfl⟩⟩
        | metadata m =>
          simp only
          obtain ⟨fs', result⟩ := Sidecar.write fs file.path m
          cases result with
          | ok sidecar => exact ⟨_, .written file sidecar, .inl rfl⟩
          | error e => exact ⟨_, .failed file route e hroute, .inl rfl⟩

/-! ## Item after item -/

lemma log_stage_concat : (stage d fs root showProgress (items ++ [item])).log =
    (stage d fs root showProgress items).log ++
      (nextProcessed d fs root showProgress items item).log := by
  rw [stage_concat]
  rfl

/-- A log stays as it should be when lines without details follow. -/
lemma Remarked.append {log more : List LogRecord} (h : Remarked log) (hmore : Remarked more) :
    Remarked (log ++ more) := by
  intro i r hr hlow
  rcases Nat.lt_or_ge i log.length with hi | hi
  · rw [List.getElem?_append_left hi] at hr
    obtain ⟨p, hp, hnext⟩ := h i r hr hlow
    obtain ⟨hlt, -⟩ := List.getElem?_eq_some_iff.1 hnext
    exact ⟨p, hp, by rwa [List.getElem?_append_left hlt]⟩
  · rw [List.getElem?_append_right hi] at hr
    obtain ⟨p, hp, hnext⟩ := hmore _ r hr hlow
    refine ⟨p, hp, ?_⟩
    rw [List.getElem?_append_right (by omega)]
    rwa [Nat.sub_add_comm hi]

lemma remarked_of_passes (h : line.passes .info = true) : Remarked [line] := by
  intro i r hr hlow
  obtain rfl : line = r := by
    cases i with
    | zero => simpa using hr
    | succ i => simp at hr
  rw [h] at hlow
  cases hlow

lemma remarked_container (p : Path) : Remarked [containerRecord p, processingRecord p] := by
  intro i r hr hlow
  cases i with
  | zero =>
    obtain rfl : containerRecord p = r := by simpa using hr
    exact ⟨p, rfl, rfl⟩
  | succ i =>
    obtain rfl : processingRecord p = r := by
      cases i with
      | zero => simpa using hr
      | succ i => simp at hr
    cases hlow

/-- The log of a scan on its way has one line for each report so far. -/
theorem stage_chronicle (d : Dispatcher) (fs : FileSystem) (root : Path) (showProgress : Bool)
    (items : List WalkItem) :
    ∃ lines, (stage d fs root showProgress items).log.filter (LogRecord.passes .info) =
        startRecord root :: lines ∧
      Chronicle d items (stage d fs root showProgress items).reports lines ∧
      Remarked (stage d fs root showProgress items).log := by
  induction items using List.reverseRecOn with
  | nil => exact ⟨[], rfl, .nil, remarked_of_passes rfl⟩
  | append_singleton items item ih =>
    obtain ⟨lines, hlines, hchronicle, hremarked⟩ := ih
    obtain ⟨line, htells, hlog⟩ :=
      processItem_tells d (stage d fs root showProgress items).system item
    change (nextProcessed d fs root showProgress items item).log = [line] ∨
      (nextProcessed d fs root showProgress items item).log = _ ∧ _ at hlog
    rw [log_stage_concat, reports_stage_concat, List.filter_append, hlines]
    refine ⟨lines ++ [line], ?_, .concat hchronicle htells, hremarked.append ?_⟩
    · -- the remark, if there is one, is not let through
      have hnew : (nextProcessed d fs root showProgress items item).log.filter
          (LogRecord.passes .info) = [line] := by
        rcases hlog with hlog | ⟨hlog, -⟩
        · rw [hlog, List.filter_cons_of_pos htells.passes, List.filter_nil]
        · have hlow : ¬ (containerRecord item.path).passes .info = true := Bool.false_ne_true
          rw [hlog, List.filter_cons_of_neg hlow, List.filter_cons_of_pos htells.passes,
            List.filter_nil]
      rw [hnew, List.cons_append]
    · rcases hlog with hlog | ⟨hlog, hline⟩
      · rw [hlog]
        exact remarked_of_passes htells.passes
      · rw [hlog, hline]
        exact remarked_container item.path

/-! ## The whole scan -/

lemma count_eq_tally (s : Scan) (sort : Outcome → Bool) : s.count sort = tally s.reports sort :=
  List.countP_eq_length_filter

/-- The numbers of the last line are those of the reports. -/
lemma endRecord_eq {s : Scan} (h : s.filesScanned = s.reports.length) :
    s.endRecord = completion s.reports := by
  unfold endRecord written noMetadata unsupported failed
  simp only [count_eq_tally, h]
  rfl

/-- Every report has an outcome of one sort. -/
lemma length_eq_tallies (s : Scan) : s.reports.length =
    tally s.reports Outcome.isWritten + tally s.reports Outcome.isNoMetadata +
      tally s.reports Outcome.isUnsupported + tally s.reports Outcome.isFailed := by
  simp only [← count_eq_tally]
  exact length_reports s

/-- A scan whose root is missing or no directory ends with an error that says so, and logs nothing.
Every other scan goes through.  Its log down to the level of information is a line about the start,
then the line that tells of each report, in the order of the reports, and a line about the end that
counts the reports and those with each sort of outcome.  Every other line is a detail about a file
whose format has no metadata, directly in front of the line about that file.  The numbers of the
sorts add up to that of the reports. -/
theorem log_tells_reports (d : Dispatcher) (fs : FileSystem) (root : Path) (showProgress : Bool) :
    (fs.pathExists root = false → run d fs root showProgress = .error (.pathNotFound root) ∧
      logOf d fs root showProgress = []) ∧
    (fs.pathExists root = true → fs.isDirectory root = false →
      run d fs root showProgress = .error (.notADirectory root) ∧
      logOf d fs root showProgress = []) ∧
    (fs.isDirectory root = true → ∃ s lines, run d fs root showProgress = .ok s ∧
      s.log.filter (LogRecord.passes .info) =
        ⟨.info, s!"Starting metadata scan at: {root.display}"⟩ :: lines ++
          [completion s.reports] ∧
      Chronicle d (itemsOf d fs root showProgress) s.reports lines ∧
      Remarked s.log ∧
      s.reports.length =
        tally s.reports Outcome.isWritten + tally s.reports Outcome.isNoMetadata +
          tally s.reports Outcome.isUnsupported + tally s.reports Outcome.isFailed) := by
  refine ⟨fun hexists => ?_, fun hexists hdir => ?_, fun hdir => ?_⟩
  · have hrun : run d fs root showProgress = .error (.pathNotFound root) :=
      run_of_not_pathExists hexists
    exact ⟨hrun, by rw [logOf, hrun]⟩
  · have hrun : run d fs root showProgress = .error (.notADirectory root) :=
      run_of_not_isDirectory hexists hdir
    exact ⟨hrun, by rw [logOf, hrun]⟩
  · obtain ⟨lines, hlines, hchronicle, hremarked⟩ :=
      stage_chronicle d fs root showProgress (itemsOf d fs root showProgress)
    refine ⟨_, lines, run_of_isDirectory d showProgress hdir, ?_, hchronicle, ?_,
      length_eq_tallies _⟩
    · rw [finish, List.filter_append, hlines, endRecord_eq filesScanned_eq]
      rfl
    · exact hremarked.append (remarked_of_passes rfl)

end Sidecars.Scan
