import Sidecars.Proofs.Scan.Step
import Sidecars.Proofs.Sidecar.Chance
import Sidecars.Proofs.Walk.Uniform

/-!
# Scans and chance

Chance gives a name to each temporary file of a scan.  If the extractors do not ask it, two scans of
the same directory for which it says different things lead to the same, but for the names of
temporary files in errors and in what is logged about them.  Extractors that depend on nothing but
the path and the contents of a file do not ask chance.

* `process_withChance` says so of one file.
* `Scan.SameButNames` is the relation between two such scans; `Scan.SameButNames.meet` carries it
  over one more item and `Scan.run_withChance` over a whole scan.
-/

namespace Sidecars

open FileSystem

/-! ## Extractors -/

/-- Whether the extractors of a dispatcher depend on nothing but the path and the contents. -/
def Dispatcher.DependsOnContents (d : Dispatcher) : Prop :=
  ∀ route ∈ d, ∀ fs fs' p, fs'.read p = fs.read p → route.extractor fs' p = route.extractor fs p

lemma Dispatcher.standard_dependsOnContents : standard.DependsOnContents := by
  intro route hroute fs fs' p hread
  simp only [standard, register, List.nil_append, List.mem_append, List.mem_singleton] at hroute
  rcases hroute with rfl | rfl
  · simp only [imageExtractor, hread]
  · simp only [audioExtractor, hread]

lemma Dispatcher.mem_of_route? {d : Dispatcher} {file : MediaFile} {route : Route}
    (h : d.route? file = some route) : route ∈ d := by
  unfold route? at h
  split at h
  · simp at h
  · exact List.mem_of_find?_eq_some h

/-- Whether the extractors of a dispatcher do not ask chance. -/
def Dispatcher.IgnoresChance (d : Dispatcher) : Prop :=
  ∀ route ∈ d, ∀ fs chance p, route.extractor (fs.withChance chance) p = route.extractor fs p

lemma Dispatcher.DependsOnContents.ignoresChance {d : Dispatcher} (h : d.DependsOnContents) :
    d.IgnoresChance :=
  fun route hroute _ _ p => h route hroute _ _ p rfl

/-! ## One file -/

/-- Two outcomes that differ at most in the name of a temporary file. -/
inductive Outcome.SameButName : Outcome → Outcome → Prop where
  /-- They are the same. -/
  | refl (o : Outcome) : SameButName o o
  /-- The same went wrong. -/
  | failed {e e' : Error} (h : e.SameButName e') : SameButName (.failed e) (.failed e')

/-- What is counted of an outcome is the same. -/
lemma Outcome.SameButName.sort_eq {o o' : Outcome} (h : o.SameButName o') :
    o.isWritten = o'.isWritten ∧ o.isNoMetadata = o'.isNoMetadata ∧
      o.isUnsupported = o'.isUnsupported ∧ o.isFailed = o'.isFailed := by
  cases h <;> exact ⟨rfl, rfl, rfl, rfl⟩

/-- Two reports on one file whose outcomes differ at most in the name of a temporary file. -/
structure Report.SameButName (r r' : Report) : Prop where
  path : r.path = r'.path
  outcome : r.outcome.SameButName r'.outcome

/-- What dealing with a file leads to, up to the name of a temporary file. -/
structure Processed.SameButName (chance : Path → Nat) (p p' : Processed) : Prop where
  outcome : p.outcome.SameButName p'.outcome
  log : List.Forall₂ LogRecord.SameButName p.log p'.log
  system : p'.system = p.system.withChance chance

variable {d : Dispatcher} {fs : FileSystem} {chance : Path → Nat}

lemma forall₂_sameButName_refl (log : List LogRecord) :
    List.Forall₂ LogRecord.SameButName log log :=
  List.forall₂_same.2 fun r _ => .refl r

lemma failureRecord_sameButName (kind : MediaKind) (p : Path) {e e' : Error}
    (h : e.SameButName e') : (failureRecord kind p e).SameButName (failureRecord kind p e') := by
  have htext (e : Error) : (failureRecord kind p e).text =
      "Error processing " ++ (kind.word ++ (" file " ++ (p.display ++ (": " ++ e.message)))) := by
    simp only [failureRecord, toString, String.append_assoc]
  refine ⟨rfl, ?_⟩
  rw [htext, htext]
  exact ((((h.message.prepend _).prepend _).prepend _).prepend _).prepend _

/-- What comes of a file depends on chance only in the name of a temporary file. -/
theorem process_withChance (hd : d.IgnoresChance) (fs : FileSystem) (chance : Path → Nat)
    (file : MediaFile) :
    (process d fs file).SameButName chance (process d (fs.withChance chance) file) := by
  have hsame (o : Outcome) (log : List LogRecord) :
      (⟨o, log, fs⟩ : Processed).SameButName chance ⟨o, log, fs.withChance chance⟩ :=
    ⟨.refl o, forall₂_sameButName_refl log, rfl⟩
  unfold process
  cases hroute : d.route? file with
  | none => exact hsame _ _
  | some route =>
    simp only [hd route (Dispatcher.mem_of_route? hroute)]
    cases route.extractor fs file.path with
    | error e => exact hsame _ _
    | ok finding =>
      cases finding with
      | nothing => exact hsame _ _
      | never => exact hsame _ _
      | metadata m =>
        obtain ⟨hsystem, hanswer⟩ := Sidecar.write_withChance fs file.path m chance
        cases hwrite : Sidecar.write fs file.path m with
        | mk fs₁ answer =>
          cases hwrite' : Sidecar.write (fs.withChance chance) file.path m with
          | mk fs₂ answer' =>
            rw [hwrite, hwrite'] at hsystem hanswer
            simp only [hwrite, hwrite']
            cases hanswer with
            | ok sidecar => exact ⟨.refl _, forall₂_sameButName_refl _, hsystem⟩
            | error he => exact ⟨.failed he, .cons (failureRecord_sameButName _ _ he) .nil, hsystem⟩

/-! ## A directory -/

namespace Scan

/-- Two scans that differ at most in the names of temporary files, chance having said something else
in the second one. -/
structure SameButNames (chance : Path → Nat) (s s' : Scan) : Prop where
  filesScanned : s.filesScanned = s'.filesScanned
  reports : List.Forall₂ Report.SameButName s.reports s'.reports
  log : List.Forall₂ LogRecord.SameButName s.log s'.log
  system : s'.system = s.system.withChance chance
  progress : s.progress = s'.progress

/-- What comes of an item depends on chance only in the name of a temporary file. -/
lemma processItem_withChance (hd : d.IgnoresChance) (fs : FileSystem) (item : WalkItem)
    (chance : Path → Nat) :
    (processItem d fs item).SameButName chance (processItem d (fs.withChance chance) item) := by
  cases item with
  | file file => exact process_withChance hd fs chance file
  | fault p e => exact ⟨.refl _, forall₂_sameButName_refl _, rfl⟩

namespace SameButNames

variable {s s' : Scan}

/-- One more item. -/
lemma meet (hd : d.IgnoresChance) (h : s.SameButNames chance s') (item : WalkItem) :
    (Scan.meet d s item).SameButNames chance (Scan.meet d s' item) := by
  have hprocessed : (processItem d s.system item).SameButName chance
      (processItem d s'.system item) := h.system ▸ processItem_withChance hd s.system item chance
  exact {
    filesScanned := congrArg (· + 1) h.filesScanned
    reports := List.rel_append h.reports (.cons ⟨rfl, hprocessed.outcome⟩ .nil)
    log := List.rel_append h.log hprocessed.log
    system := hprocessed.system
    progress := by simp only [Scan.meet, h.progress] }

/-- Reports are counted alike. -/
lemma countP_eq {reports reports' : List Report}
    (h : List.Forall₂ Report.SameButName reports reports') {sort : Outcome → Bool}
    (hsort : ∀ o o' : Outcome, o.SameButName o' → sort o = sort o') :
    reports.countP (fun r => sort r.outcome) = reports'.countP fun r => sort r.outcome := by
  induction h with
  | nil => rfl
  | cons hr _ ih => rw [List.countP_cons, List.countP_cons, ih, hsort _ _ hr.outcome]

lemma failed_eq (h : s.SameButNames chance s') : s.failed = s'.failed :=
  countP_eq h.reports fun _ _ ho => ho.sort_eq.2.2.2

lemma endRecord_eq (h : s.SameButNames chance s') : s.endRecord = s'.endRecord := by
  have hwritten : s.written = s'.written := countP_eq h.reports fun _ _ ho => ho.sort_eq.1
  have hnone : s.noMetadata = s'.noMetadata := countP_eq h.reports fun _ _ ho => ho.sort_eq.2.1
  have hunsupported : s.unsupported = s'.unsupported :=
    countP_eq h.reports fun _ _ ho => ho.sort_eq.2.2.1
  rw [endRecord, endRecord, h.filesScanned, hwritten, hnone, hunsupported, h.failed_eq]

lemma finish (h : s.SameButNames chance s') : s.finish.SameButNames chance s'.finish where
  filesScanned := h.filesScanned
  reports := h.reports
  log := by
    rw [Scan.finish, Scan.finish, h.endRecord_eq]
    exact List.rel_append h.log (forall₂_sameButName_refl _)
  system := h.system
  progress := h.progress

end SameButNames

/-- Two ways for a scan to end that differ at most in the names of temporary files. -/
inductive EndAlike (chance : Path → Nat) : Except Error Scan → Except Error Scan → Prop where
  /-- It could not be made. -/
  | error (e : Error) : EndAlike chance (.error e) (.error e)
  /-- It went through. -/
  | ok {s s' : Scan} (h : s.SameButNames chance s') : EndAlike chance (.ok s) (.ok s')

lemma uniform_withChance (hd : d.IgnoresChance) :
    Walk.Uniform Scan.system (meet d) Scan.system (meet d) (SameButNames chance) where
  system h := ⟨chance, h.system⟩
  meet h item := h.meet hd item

/-- A scan depends on chance only in the names of temporary files. -/
theorem run_withChance (hd : d.IgnoresChance) (fs : FileSystem) (chance : Path → Nat) (root : Path)
    (showProgress : Bool) :
    EndAlike chance (run d fs root showProgress)
      (run d (fs.withChance chance) root showProgress) := by
  have hstart : (start fs root showProgress).SameButNames chance
      (start (fs.withChance chance) root showProgress) := by
    refine ⟨rfl, .nil, forall₂_sameButName_refl _, rfl, ?_⟩
    rw [start, start, Walk.count_withChance]
  have hfold := (uniform_withChance hd).fold root hstart
  unfold run
  rw [pathExists_withChance, isDirectory_withChance]
  by_cases hexists : fs.pathExists root = true
  · by_cases hdir : fs.isDirectory root = true
    · simp only [hexists, hdir, not_true_eq_false, if_false]
      exact .ok hfold.finish
    · simp only [hexists, hdir, not_true_eq_false, if_false]
      exact .error _
  · simp only [hexists]
    exact .error _

/-- If a scan goes through, it does so whatever chance says. -/
lemma exists_run_withChance (hd : d.IgnoresChance) {fs : FileSystem} {root : Path}
    {showProgress : Bool} {s : Scan} (h : run d fs root showProgress = .ok s)
    (chance : Path → Nat) :
    ∃ s', run d (fs.withChance chance) root showProgress = .ok s' ∧ s.SameButNames chance s' := by
  have halike := run_withChance hd fs chance root showProgress
  rw [h] at halike
  generalize run d (fs.withChance chance) root showProgress = result at halike
  cases halike with
  | ok hsame => exact ⟨_, rfl, hsame⟩

end Scan

end Sidecars
