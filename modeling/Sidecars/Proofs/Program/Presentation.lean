import Sidecars.Program
import Sidecars.Proofs.Scan.Isolation

/-!
# What is only shown

The progress bar and the log level are for the eyes of the user.  For the bar, the directory is
walked through once more before the scan; the level decides which records are printed.  Neither
makes a difference for what the program does.

Two runs do not give the same names to their temporary files, and an error about one of them tells
its name.  So what two runs print is compared up to these names, for which chance is responsible.

* `Scan.run_withoutBar`: a scan with a bar and one without it differ in the bar only.
* `Program.records` are the records that a run prints; `Program.records_eq_filter` compares those of
  two levels, and `Program.records_withChance` those of two runs at one level.
* `Program.run_eq_of_path_eq`: two runs with the same path leave the same file system, end in the
  same way and print the same about errors, and the one with the lower level prints a part of what
  the other one prints.
-/

namespace Sidecars

namespace Scan

/-- A scan without its bar. -/
def withoutBar (s : Scan) : Scan := { s with progress := none }

lemma withoutBar_meet (d : Dispatcher) (s : Scan) (item : WalkItem) :
    (meet d s item).withoutBar = meet d s.withoutBar item := rfl

lemma withoutBar_finish (s : Scan) : s.finish.withoutBar = s.withoutBar.finish := rfl

/-- At every step of a scan, the bar is all that a bar makes different. -/
lemma uniform_withoutBar (d : Dispatcher) :
    Walk.Uniform Scan.system (meet d) Scan.system (meet d) fun s t => s.withoutBar = t := by
  refine ⟨?_, ?_⟩
  · rintro s t rfl
    exact ⟨_, rfl⟩
  · rintro s t rfl item
    exact withoutBar_meet d s item

/-- A scan with a bar and a scan without one end in the same way, and the reports, the log and the
file system are the same. -/
theorem run_withoutBar (d : Dispatcher) (fs : FileSystem) (root : Path) (showProgress : Bool) :
    (run d fs root showProgress).map withoutBar = run d fs root false := by
  have hstart : (start fs root showProgress).withoutBar = start fs root false := rfl
  have hfold := (uniform_withoutBar d).fold root hstart
  unfold run
  split
  · rfl
  · split
    · rfl
    · rw [Except.map, withoutBar_finish, hfold]

/-- Two scans differ in nothing but their bars and the names of temporary files. -/
lemma endAlike_withoutBar {d : Dispatcher} (hd : d.IgnoresChance) (fs : FileSystem)
    (chance : Path → Nat) (root : Path) (showProgress showAgain : Bool) :
    EndAlike chance ((run d fs root showProgress).map withoutBar)
      ((run d (fs.withChance chance) root showAgain).map withoutBar) := by
  rw [run_withoutBar, run_withoutBar]
  exact run_withChance hd fs chance root false

/-- The log of a scan, which is empty if its root is no directory. -/
def logOf (d : Dispatcher) (fs : FileSystem) (root : Path) (showProgress : Bool) :
    List LogRecord :=
  match run d fs root showProgress with
  | .ok s => s.log
  | .error _ => []

lemma logOf_eq (d : Dispatcher) (fs : FileSystem) (root : Path) (showProgress : Bool) :
    logOf d fs root showProgress = logOf d fs root false := by
  unfold logOf
  rw [← run_withoutBar d fs root showProgress]
  cases run d fs root showProgress <;> rfl

end Scan

/-- What a level lets through, a higher one lets through too. -/
lemma LogRecord.filter_passes {low high : LogLevel} (h : low.rank ≤ high.rank)
    (log : List LogRecord) :
    (log.filter (passes high)).filter (passes low) = log.filter (passes low) := by
  rw [List.filter_filter]
  refine List.filter_congr fun r _ => ?_
  rw [Bool.and_eq_left_iff_imp]
  intro hlow
  have hrank : r.level.rank ≤ low.rank := of_decide_eq_true hlow
  exact decide_eq_true (by omega)

lemma LogRecord.forall₂_filter_passes {log log' : List LogRecord}
    (h : List.Forall₂ SameButName log log') (level : LogLevel) :
    List.Forall₂ SameButName (log.filter (passes level)) (log'.filter (passes level)) := by
  refine List.rel_filter (fun r r' hr => ?_) h
  have heq : passes level r = passes level r' := by rw [passes, passes, hr.level]
  exact Eq.to_iff (congrArg (· = true) heq)

namespace Program

open Settings (Environment)

/-- The records that a run with given settings prints. -/
def records (s : Settings) (fs : FileSystem) : List LogRecord :=
  (Scan.logOf Dispatcher.standard fs s.mediaPath s.showProgress).filter
    (LogRecord.passes s.logLevel)

/-- The text of some records, each in a line. -/
def lines (log : List LogRecord) : String := String.join (log.map fun r => r.line ++ "\n")

/-- A run with given settings prints its records. -/
lemma stdout_runWith (s : Settings) (fs : FileSystem) :
    (runWith s fs).stdout = lines (records s fs) := by
  unfold runWith records Scan.logOf
  cases Scan.run Dispatcher.standard fs s.mediaPath s.showProgress with
  | error e => rfl
  | ok scan =>
    simp only
    split <;> rfl

/-- What a run does and how it ends depends neither on the bar, nor on the level, nor on chance. -/
lemma runWith_eq_of_path_eq {s s' : Settings} (hpath : s.mediaPath = s'.mediaPath)
    (fs : FileSystem) (chance : Path → Nat) :
    (runWith s' (fs.withChance chance)).system = (runWith s fs).system.withChance chance ∧
      (runWith s' (fs.withChance chance)).code = (runWith s fs).code ∧
      (runWith s' (fs.withChance chance)).stderr = (runWith s fs).stderr := by
  have hscan := Scan.endAlike_withoutBar Dispatcher.standard_dependsOnContents.ignoresChance fs
    chance s.mediaPath s.showProgress s'.showProgress
  unfold runWith
  rw [← hpath]
  -- from here on only the two scans count, which differ in their bars and in names
  generalize Scan.run Dispatcher.standard fs s.mediaPath s.showProgress = result at hscan ⊢
  generalize Scan.run Dispatcher.standard (fs.withChance chance) s.mediaPath s'.showProgress =
    result' at hscan ⊢
  cases result with
  | error e =>
    cases result' with
    | ok scan' => cases hscan
    | error e' =>
      cases hscan
      exact ⟨rfl, rfl, rfl⟩
  | ok scan =>
    cases result' with
    | error e' => cases hscan
    | ok scan' =>
      obtain halike : scan.withoutBar.SameButNames chance scan'.withoutBar := by
        cases hscan
        assumption
      have hsystem : scan'.system = scan.system.withChance chance := halike.system
      have hfailed : scan.failed = scan'.failed := halike.failed_eq
      simp only [hfailed, hsystem]
      split <;> exact ⟨rfl, rfl, rfl⟩

/-- Of two runs with the same path, the one with the lower level prints those records of the other
one that its own level lets through. -/
lemma records_eq_filter {s s' : Settings} (hpath : s.mediaPath = s'.mediaPath)
    (hlevel : s.logLevel.rank ≤ s'.logLevel.rank) (fs : FileSystem) :
    records s fs = (records s' fs).filter (LogRecord.passes s.logLevel) := by
  unfold records
  rw [LogRecord.filter_passes hlevel, hpath, Scan.logOf_eq, ← Scan.logOf_eq _ _ _ s'.showProgress]

/-- What a run prints depends on chance only in the names of temporary files. -/
lemma records_withChance (s : Settings) (fs : FileSystem) (chance : Path → Nat) :
    List.Forall₂ LogRecord.SameButName (records s fs) (records s (fs.withChance chance)) := by
  have hscan := Scan.run_withChance Dispatcher.standard_dependsOnContents.ignoresChance fs chance
    s.mediaPath s.showProgress
  have hlog : List.Forall₂ LogRecord.SameButName
      (Scan.logOf Dispatcher.standard fs s.mediaPath s.showProgress)
      (Scan.logOf Dispatcher.standard (fs.withChance chance) s.mediaPath s.showProgress) := by
    unfold Scan.logOf
    generalize Scan.run Dispatcher.standard fs s.mediaPath s.showProgress = result at hscan ⊢
    generalize Scan.run Dispatcher.standard (fs.withChance chance) s.mediaPath s.showProgress =
      result' at hscan ⊢
    cases hscan with
    | error e => exact .nil
    | ok h => exact h.log
  exact LogRecord.forall₂_filter_passes hlog s.logLevel

/-- Whether a run has some settings: each value of the file of variables can be set, and the
settings are read. -/
structure Configured (args : List Bytes) (env : Environment) (fs : FileSystem) (s : Settings) :
    Prop where
  settable : unsettable? env fs = none
  parsed : Settings.parse args (environment env fs) = .ok s

/-- A run whose settings are read is a run with these settings. -/
lemma run_eq_runWith {args : List Bytes} {env : Environment} {fs : FileSystem} {s : Settings}
    (h : Configured args env fs s) : run args env fs = runWith s fs := by
  rw [run, h.settable]
  simp only
  rw [runIn, h.parsed]

lemma nearestEnvFile_withChance (fs : FileSystem) (chance : Path → Nat) (names : List Name) :
    nearestEnvFile (fs.withChance chance) names = nearestEnvFile fs names := by
  have hsearch (directory : Location) :
      searchEnvFile (fs.withChance chance) directory = searchEnvFile fs directory := rfl
  induction names with
  | nil => rw [nearestEnvFile, nearestEnvFile, hsearch]
  | cons name rest ih => rw [nearestEnvFile, nearestEnvFile, hsearch, ih]

/-- The settings do not depend on chance. -/
lemma Configured.withChance {args : List Bytes} {env : Environment} {fs : FileSystem} {s : Settings}
    (h : Configured args env fs s) (chance : Path → Nat) :
    Configured args env (fs.withChance chance) s := by
  have hnearest : nearestEnvFile (fs.withChance chance) (fs.withChance chance).current.reverse =
      nearestEnvFile fs fs.current.reverse := nearestEnvFile_withChance fs chance _
  refine ⟨?_, ?_⟩
  · rw [unsettable?, hnearest]
    exact h.settable
  · rw [environment, hnearest]
    exact h.parsed

/-- Two runs of the program on the same file system, whose settings differ only in the bar and in
the log level, leave the same file system, end with the same status and print the same about errors,
whatever chance says in each of them.

Each prints the records that its level lets through.  If the level of the first run is not above
that of the second one, the first prints the records of the second that its level lets through, in
the same order; they are the very same if chance says the same in both runs, and differ at most in
the names of temporary files if it does not.

A scan with a bar and one without it differ in nothing else, or, if chance does not say the same, in
the names of temporary files. -/
theorem run_eq_of_path_eq {args args' : List Bytes} {env env' : Environment} {fs : FileSystem}
    {s s' : Settings} (h : Configured args env fs s) (h' : Configured args' env' fs s')
    (hpath : s.mediaPath = s'.mediaPath) (chance : Path → Nat) :
    ((run args' env' (fs.withChance chance)).system =
        (run args env fs).system.withChance chance ∧
      (run args' env' (fs.withChance chance)).code = (run args env fs).code ∧
      (run args' env' (fs.withChance chance)).stderr = (run args env fs).stderr) ∧
    ((run args env fs).stdout = lines (records s fs) ∧
      (run args' env' (fs.withChance chance)).stdout = lines (records s' (fs.withChance chance)) ∧
      (s.logLevel.rank ≤ s'.logLevel.rank →
        records s fs = (records s' fs).filter (LogRecord.passes s.logLevel) ∧
        List.Forall₂ LogRecord.SameButName (records s fs)
          ((records s' (fs.withChance chance)).filter (LogRecord.passes s.logLevel)))) ∧
    ∀ d fs root, (Scan.run d fs root true).map Scan.withoutBar = Scan.run d fs root false ∧
      (d.IgnoresChance → ∀ chance, Scan.EndAlike chance (Scan.run d fs root false)
        ((Scan.run d (fs.withChance chance) root true).map Scan.withoutBar)) := by
  rw [run_eq_runWith h, run_eq_runWith (h'.withChance chance)]
  refine ⟨runWith_eq_of_path_eq hpath fs chance, ⟨stdout_runWith s fs, stdout_runWith s' _,
    fun hlevel => ⟨records_eq_filter hpath hlevel fs, ?_⟩⟩, fun d fs root => ⟨?_, ?_⟩⟩
  · rw [records_eq_filter hpath hlevel fs]
    exact LogRecord.forall₂_filter_passes (records_withChance s' fs chance) s.logLevel
  · exact Scan.run_withoutBar d fs root true
  · intro hd chance
    rw [Scan.run_withoutBar]
    exact Scan.run_withChance hd fs chance root false

/-- A quiet run and a chatty one on an album, for which chance does not say the same.  They leave
the same, and the quiet one prints what the chatty one says of errors. -/
theorem run_eq_of_path_eq_album :
    let quiet : Settings := ⟨⟨Scan.albumName.bytes⟩, true, .error⟩
    let chatty : Settings := ⟨⟨Scan.albumName.bytes⟩, false, .trace⟩
    let args := [Scan.albumName.bytes]
    let quietArgs := args ++ [Binary.ascii "--no-progress", Binary.ascii "--log-level=error"]
    let env := [("SIDECAR_LOG_LEVEL", "trace")]
    let later := Scan.albumSystem.withChance fun _ => 7
    (run args env later).system =
        (run quietArgs env Scan.albumSystem).system.withChance (fun _ => 7) ∧
      List.Forall₂ LogRecord.SameButName (records quiet Scan.albumSystem)
        ((records chatty later).filter (LogRecord.passes .error)) := by
  intro quiet chatty args quietArgs env later
  have hquiet : Configured quietArgs env Scan.albumSystem quiet :=
    ⟨by decide +kernel, by decide +kernel⟩
  have hchatty : Configured args env Scan.albumSystem chatty :=
    ⟨by decide +kernel, by decide +kernel⟩
  obtain ⟨⟨hsystem, -⟩, ⟨-, -, hrecords⟩, -⟩ := run_eq_of_path_eq hquiet hchatty rfl fun _ => 7
  exact ⟨hsystem, (hrecords (by decide)).2⟩

end Program

end Sidecars
