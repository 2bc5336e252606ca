import Sidecars.Dispatch
import Sidecars.Log
import Sidecars.Sidecar.Writing
import Sidecars.Walk

/-!
# Scanning a directory

A scan walks through a directory, looks into each file, writes a sidecar for each one that has
metadata, and reports what came of it.  What goes wrong with one file stays in the report of that
file.

`process` deals with one file and `Scan.run` with a whole directory.
-/

namespace Sidecars

/-- What came of a file. -/
inductive Outcome where
  /-- It has a sidecar now. -/
  | written (sidecar : Path)
  /-- It has no metadata. -/
  | noMetadata
  /-- It goes no route; its extension has a dot unless it is empty. -/
  | unsupported (extension : String)
  /-- Something went wrong. -/
  | failed (cause : Error)
deriving Repr

namespace Outcome

/-- Whether a sidecar was written. -/
def isWritten : Outcome → Bool
  | .written _ => true
  | _ => false

/-- Whether there was no metadata. -/
def isNoMetadata : Outcome → Bool
  | .noMetadata => true
  | _ => false

/-- Whether there was no route. -/
def isUnsupported : Outcome → Bool
  | .unsupported _ => true
  | _ => false

/-- What went wrong. -/
def cause? : Outcome → Option Error
  | .failed cause => some cause
  | _ => none

/-- Whether something went wrong. -/
def isFailed (o : Outcome) : Bool := o.cause?.isSome

end Outcome

/-- What came of the file at a path. -/
structure Report where
  /-- The path. -/
  path : Path
  /-- What came of it. -/
  outcome : Outcome
deriving Repr

/-! ## One file -/

/-- What dealing with a file leads to. -/
structure Processed where
  /-- What came of the file. -/
  outcome : Outcome
  /-- What was logged. -/
  log : List LogRecord
  /-- The file system afterwards. -/
  system : FileSystem

/-- The record for a file that has been dealt with. -/
def processingRecord (p : Path) : LogRecord := ⟨.info, s!"Processing file: {p.display}"⟩

/-- The record for a file that cannot have metadata. -/
def containerRecord (p : Path) : LogRecord := ⟨.debug, s!"No EXIF container: {p.display}"⟩

/-- The record for a file that goes no route. -/
def unsupportedRecord (file : MediaFile) : LogRecord :=
  ⟨.info, s!"Unsupported file type: {file.dotted}"⟩

/-- The record for a file with which something went wrong. -/
def failureRecord (kind : MediaKind) (p : Path) (cause : Error) : LogRecord :=
  ⟨.error, s!"Error processing {kind.word} file {p.display}: {cause.message}"⟩

/-- Looks into a file and writes its sidecar if it has metadata. -/
def process (d : Dispatcher) (fs : FileSystem) (file : MediaFile) : Processed :=
  match d.route? file with
  | none => ⟨.unsupported file.dotted, [unsupportedRecord file], fs⟩
  | some route =>
    match route.extractor fs file.path with
    | .error e => ⟨.failed e, [failureRecord route.kind file.path e], fs⟩
    | .ok .nothing => ⟨.noMetadata, [processingRecord file.path], fs⟩
    | .ok .never => ⟨.noMetadata, [containerRecord file.path, processingRecord file.path], fs⟩
    | .ok (.metadata m) =>
      match Sidecar.write fs file.path m with
      | (fs, .ok sidecar) => ⟨.written sidecar, [processingRecord file.path], fs⟩
      | (fs, .error e) => ⟨.failed e, [failureRecord route.kind file.path e], fs⟩

/-! ## A directory -/

/-- How far a bar has come that shows the progress of a scan. -/
structure Progress where
  /-- How many steps the bar has. -/
  length : Nat
  /-- How many of them are done. -/
  position : Nat
deriving DecidableEq, Repr

/-- What a scan has led to. -/
structure Scan where
  /-- How many files were met, readable or not. -/
  filesScanned : Nat
  /-- The reports, in the order of the walk. -/
  reports : List Report
  /-- What was logged. -/
  log : List LogRecord
  /-- The file system. -/
  system : FileSystem
  /-- The bar that shows the progress, if there is one. -/
  progress : Option Progress

namespace Scan

/-- How many reports have an outcome of some sort. -/
def count (s : Scan) (sort : Outcome → Bool) : Nat := s.reports.countP fun r => sort r.outcome

/-- How many sidecars were written. -/
def written (s : Scan) : Nat := s.count Outcome.isWritten

/-- How many files had no metadata. -/
def noMetadata (s : Scan) : Nat := s.count Outcome.isNoMetadata

/-- How many files went no route. -/
def unsupported (s : Scan) : Nat := s.count Outcome.isUnsupported

/-- With how many files something went wrong. -/
def failed (s : Scan) : Nat := s.count Outcome.isFailed

/-- With which files something went wrong, and what. -/
def failures (s : Scan) : List (Path × Error) :=
  s.reports.filterMap fun r => r.outcome.cause?.map fun cause => (r.path, cause)

/-- The report on the file at a path, however the path is spelled. -/
def reportFor? (s : Scan) (p : Path) : Option Report := s.reports.find? fun r => r.path.alike p

/-- The record for something that cannot be looked into. -/
def faultRecord (p : Path) (e : Errno) : LogRecord :=
  ⟨.warn, s!"Error accessing {p.display}: {e.messageOn p}"⟩

/-- The record for the start of a scan. -/
def startRecord (root : Path) : LogRecord := ⟨.info, s!"Starting metadata scan at: {root.display}"⟩

/-- The record for the end of a scan. -/
def endRecord (s : Scan) : LogRecord :=
  ⟨.info, s!"Scan completed: {s.filesScanned} files scanned, {s.written} sidecars written, {s.noMetadata} without metadata, {s.unsupported} unsupported, {s.failed} failed"⟩

/-- What dealing with an item of the walk leads to. -/
def processItem (d : Dispatcher) (fs : FileSystem) : WalkItem → Processed
  | .file file => process d fs file
  | .fault p e => ⟨.failed (.walk p e), [faultRecord p e], fs⟩

/-- The scan after one more item of the walk. -/
def meet (d : Dispatcher) (s : Scan) (item : WalkItem) : Scan :=
  let processed := processItem d s.system item
  { filesScanned := s.filesScanned + 1
    reports := s.reports ++ [⟨item.path, processed.outcome⟩]
    log := s.log ++ processed.log
    system := processed.system
    progress := s.progress.map fun bar => { bar with position := bar.position + 1 } }

/-- The scan before anything is met. -/
def start (fs : FileSystem) (root : Path) (showProgress : Bool) : Scan where
  filesScanned := 0
  reports := []
  log := [startRecord root]
  system := fs
  progress := if showProgress then some ⟨Walk.count fs root, 0⟩ else none

/-- The scan with its last record. -/
def finish (s : Scan) : Scan := { s with log := s.log ++ [s.endRecord] }

/-- Scans a directory. -/
def run (d : Dispatcher) (fs : FileSystem) (root : Path) (showProgress : Bool) :
    Except Error Scan :=
  if ¬ fs.pathExists root then .error (.pathNotFound root)
  else if ¬ fs.isDirectory root then .error (.notADirectory root)
  else .ok (Walk.fold Scan.system (meet d) root (start fs root showProgress)).finish

end Scan
end Sidecars
