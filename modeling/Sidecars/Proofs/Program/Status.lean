import Sidecars.Proofs.Program.Presentation
import Sidecars.Proofs.Scan.Coverage

/-!
# How a run ends

A run whose settings are read ends with the status 0 if its root is a directory and nothing went
wrong with any file, and otherwise with the status 1 and an error: that the root is missing or is no
directory, in which case nothing was done, or how many files failed.  Failures do not end a scan
early, so the files behind them have been attempted as well.
-/

namespace Sidecars

namespace Scan

/-- How many of some reports are about failures. -/
def failuresAmong (reports : List Report) : Nat :=
  (reports.filter fun r => r.outcome.isFailed).length

lemma failed_eq (s : Scan) : s.failed = failuresAmong s.reports :=
  List.countP_eq_length_filter

lemma failuresAmong_eq_zero_iff {reports : List Report} :
    failuresAmong reports = 0 ↔ ∀ r ∈ reports, r.outcome.isFailed = false := by
  rw [failuresAmong, List.length_eq_zero_iff, List.filter_eq_nil_iff]
  simp only [Bool.not_eq_true]

lemma run_of_not_pathExists {d : Dispatcher} {fs : FileSystem} {root : Path} {showProgress : Bool}
    (h : fs.pathExists root = false) :
    run d fs root showProgress = .error (.pathNotFound root) := by
  rw [run, h]
  rfl

lemma run_of_not_isDirectory {d : Dispatcher} {fs : FileSystem} {root : Path} {showProgress : Bool}
    (hexists : fs.pathExists root = true) (h : fs.isDirectory root = false) :
    run d fs root showProgress = .error (.notADirectory root) := by
  rw [run, hexists, h]
  rfl

end Scan

namespace Program

open Settings (Environment)

variable {fs : FileSystem} {s : Settings}

/-- A run that ends with an error. -/
structure Result.FailsWith (result : Result) (text : String) (fs : FileSystem) : Prop where
  /-- The status. -/
  code : result.code = 1
  /-- What is printed about the error. -/
  stderr : result.stderr = "Error: " ++ text ++ "\n"
  /-- The file system afterwards. -/
  system : result.system = fs

lemma failsWith_failure (e : Error) (stdout : String) (fs : FileSystem) :
    (failure e stdout fs).FailsWith (complaint e) fs := ⟨rfl, rfl, rfl⟩

lemma Result.FailsWith.not_success {result : Result} {text : String}
    (h : result.FailsWith text fs) : ¬ (result.code = 0 ∧ result.stderr = "") := by
  rintro ⟨hcode, -⟩
  rw [h.code] at hcode
  exact Nat.one_ne_zero hcode

/-- A run whose root is missing. -/
lemma runWith_of_not_pathExists (h : fs.pathExists s.mediaPath = false) :
    (runWith s fs).FailsWith ("PathNotFound(" ++ s.mediaPath.quoted ++ ")") fs := by
  rw [runWith, Scan.run_of_not_pathExists h]
  exact failsWith_failure _ "" fs

/-- A run whose root is no directory. -/
lemma runWith_of_not_isDirectory (hexists : fs.pathExists s.mediaPath = true)
    (h : fs.isDirectory s.mediaPath = false) :
    (runWith s fs).FailsWith ("NotADirectory(" ++ s.mediaPath.quoted ++ ")") fs := by
  rw [runWith, Scan.run_of_not_isDirectory hexists h]
  exact failsWith_failure _ "" fs

/-- A run in which something went wrong with some files. -/
lemma runWith_of_failures {scan : Scan}
    (h : Scan.run Dispatcher.standard fs s.mediaPath s.showProgress = .ok scan)
    (hpos : 0 < Scan.failuresAmong scan.reports) :
    (runWith s fs).FailsWith ("Failures(" ++ toString (Scan.failuresAmong scan.reports) ++ ")")
      scan.system := by
  rw [← Scan.failed_eq] at hpos ⊢
  rw [runWith, h]
  simp only
  rw [if_pos hpos]
  exact failsWith_failure _ _ _

/-- A run in which nothing went wrong. -/
lemma runWith_of_no_failure {scan : Scan}
    (h : Scan.run Dispatcher.standard fs s.mediaPath s.showProgress = .ok scan)
    (hnone : ∀ r ∈ scan.reports, r.outcome.isFailed = false) :
    (runWith s fs).code = 0 ∧ (runWith s fs).stderr = "" ∧ (runWith s fs).system = scan.system := by
  rw [← Scan.failuresAmong_eq_zero_iff, ← Scan.failed_eq] at hnone
  rw [runWith, h]
  simp only
  rw [if_neg (by omega)]
  exact ⟨rfl, rfl, rfl⟩

/-- A run whose settings are read ends with the status 0, and without an error being printed, if
and only if its root is there, is a directory, and none of the reports of the scan is about a
failure.

Otherwise it ends with the status 1 and prints an error.  If the root is missing or is no directory,
the error says so and nothing has changed.  If the root is a directory, the scan goes through and
has attempted everything, the file system is the one that it leaves, and the error tells how many
reports are about failures, if there are any. -/
theorem run_status {args : List Bytes} {env : Environment} (h : Configured args env fs s) :
    ((run args env fs).code = 0 ∧ (run args env fs).stderr = "" ↔
      fs.pathExists s.mediaPath = true ∧ fs.isDirectory s.mediaPath = true ∧
        ∀ r ∈ Scan.reportsOf Dispatcher.standard fs s.mediaPath s.showProgress,
          r.outcome.isFailed = false) ∧
    (fs.pathExists s.mediaPath = false →
      (run args env fs).FailsWith ("PathNotFound(" ++ s.mediaPath.quoted ++ ")") fs) ∧
    (fs.pathExists s.mediaPath = true → fs.isDirectory s.mediaPath = false →
      (run args env fs).FailsWith ("NotADirectory(" ++ s.mediaPath.quoted ++ ")") fs) ∧
    (fs.isDirectory s.mediaPath = true →
      ∃ scan, Scan.run Dispatcher.standard fs s.mediaPath s.showProgress = .ok scan ∧
        Scan.Covers Dispatcher.standard fs s.mediaPath s.showProgress scan ∧
        (run args env fs).system = scan.system ∧
        (0 < Scan.failuresAmong scan.reports → (run args env fs).FailsWith
          ("Failures(" ++ toString (Scan.failuresAmong scan.reports) ++ ")") scan.system)) := by
  rw [run_eq_runWith h]
  refine ⟨?_, runWith_of_not_pathExists, runWith_of_not_isDirectory, fun hdir => ?_⟩
  · -- a run that ends with an error is no success, whichever error it is
    cases hexists : fs.pathExists s.mediaPath with
    | false => simpa using (runWith_of_not_pathExists hexists).not_success
    | true =>
      cases hdir : fs.isDirectory s.mediaPath with
      | false => simpa using (runWith_of_not_isDirectory hexists hdir).not_success
      | true =>
        obtain ⟨scan, hrun, -⟩ := Scan.covers Dispatcher.standard s.showProgress hdir
        have hreports : Scan.reportsOf Dispatcher.standard fs s.mediaPath s.showProgress =
            scan.reports := by rw [Scan.reportsOf, hrun]
        rw [hreports]
        constructor
        · intro hsuccess
          refine ⟨rfl, rfl, ?_⟩
          rw [← Scan.failuresAmong_eq_zero_iff]
          by_contra hsome
          exact (runWith_of_failures hrun (Nat.pos_of_ne_zero hsome)).not_success hsuccess
        · rintro ⟨-, -, hnone⟩
          obtain ⟨hcode, hstderr, -⟩ := runWith_of_no_failure hrun hnone
          exact ⟨hcode, hstderr⟩
  · obtain ⟨scan, hrun, hcovers⟩ := Scan.covers Dispatcher.standard s.showProgress hdir
    refine ⟨scan, hrun, hcovers, ?_, runWith_of_failures hrun⟩
    rcases Nat.eq_zero_or_pos (Scan.failuresAmong scan.reports) with hnone | hpos
    · exact (runWith_of_no_failure hrun (Scan.failuresAmong_eq_zero_iff.1 hnone)).2.2
    · exact (runWith_of_failures hrun hpos).system

/-- None of the pictures of the album is one, so a run on the album tells of four failures. -/
theorem run_status_album :
    (run [Scan.albumName.bytes] [] Scan.albumSystem).code = 1 ∧
      (run [Scan.albumName.bytes] [] Scan.albumSystem).stderr = "Error: Failures(4)\n" := by
  have hconfigured : Configured [Scan.albumName.bytes] [] Scan.albumSystem
      ⟨⟨Scan.albumName.bytes⟩, false, .info⟩ := ⟨by decide +kernel, by decide +kernel⟩
  have hfour : Scan.failuresAmong (Scan.reportsOf Dispatcher.standard Scan.albumSystem
      ⟨Scan.albumName.bytes⟩ true) = 4 := by decide +kernel
  obtain ⟨-, -, -, hdirectory⟩ := run_status hconfigured
  obtain ⟨scan, hrun, -, -, hfails⟩ := hdirectory (by decide)
  have hscan : Scan.run Dispatcher.standard Scan.albumSystem ⟨Scan.albumName.bytes⟩ true =
      .ok scan := hrun
  have hreports : Scan.failuresAmong scan.reports = 4 := by
    rw [← hfour, Scan.reportsOf, hscan]
  rw [hreports] at hfails
  have hpos : 0 < 4 := by decide
  exact ⟨(hfails hpos).code, (hfails hpos).stderr⟩

end Program

end Sidecars
