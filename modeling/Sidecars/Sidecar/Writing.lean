import Sidecars.Error
import Sidecars.FileSystem.Change
import Sidecars.Sidecar.Frontmatter

/-!
# Writing a sidecar

A sidecar is never seen half written.  Its text goes to a temporary file in the same directory,
which takes over the mode of the sidecar that is there, if any, and is then renamed into place.  If
a call fails on the way, the temporary file goes away again; that this call fails too is left out.

`Plan.make` decides on the changes from what is there at the start and from the calls that fail on
the device; `writeOn` carries them out.  `write` is the case of a device on which no call fails.
-/

namespace Sidecars.Sidecar

/-- What is appended to the name of a media file. -/
def suffix : Bytes := Binary.ascii ".metadata.md"

/-- Where the sidecar of a media file is. -/
def pathFor (media : Path) : Path := media.append suffix

/-- The mode that a new sidecar asks for. -/
def newMode : Nat := 0o666

/-! ## The temporary file -/

/-- A letter or digit by its number, which is below 62. -/
def alphanumeric (d : Nat) : UInt8 :=
  if d < 26 then UInt8.ofNat (0x41 + d)
  else if d < 52 then UInt8.ofNat (0x47 + d)
  else UInt8.ofNat (d - 4)

/-- So many letters and digits, which spell a number from its end. -/
def letters : (count : Nat) → (k : Nat) → Bytes
  | 0, _ => []
  | count + 1, k => alphanumeric (k % 62) :: letters count (k / 62)

theorem exists_of_mem_letters {count k : Nat} {b : UInt8} (h : b ∈ letters count k) :
    ∃ d < 62, b = alphanumeric d := by
  induction count generalizing k with
  | zero => simp [letters] at h
  | succ count ih =>
    rw [letters, List.mem_cons] at h
    rcases h with rfl | h
    · exact ⟨k % 62, Nat.mod_lt k (by decide), rfl⟩
    · exact ih h

theorem slash_notMem_letters (count k : Nat) : Path.slash ∉ letters count k := by
  intro h
  obtain ⟨d, hd, heq⟩ := exists_of_mem_letters h
  have hne : ∀ d < 62, Path.slash ≠ alphanumeric d := by decide
  exact hne d hd heq

/-- The name of a temporary file by its number: a dot, three letters, and six that stand for the
number. -/
def temporaryName (k : Nat) : Name where
  bytes := Binary.ascii ".tmp" ++ letters 6 k
  plain := by
    have hstart : Binary.ascii ".tmp" = [0x2E, 0x74, 0x6D, 0x70] := by decide
    refine ⟨?_, ?_, ?_, ?_⟩
    · simp [hstart]
    · simp [hstart]
    · simp [hstart, Path.dot]
    · rw [List.mem_append, not_or]
      exact ⟨by decide, slash_notMem_letters 6 k⟩

/-- How many names for temporary files there are. -/
def nameCount : Nat := Nat.pow 62 6

/-- The path of the temporary file of a name for the sidecar at a path. -/
def temporaryPath (fs : FileSystem) (target : Path) (name : Name) : Path :=
  (fs.absolute target.directory).join name.bytes

/-- Where a file of the first of some names goes that is free.  If the system does not let a name be
looked for, it is not looked for any further. -/
def firstPlace (fs : FileSystem) (target : Path) : (tries : Nat) → (k : Nat) → Except IoError Place
  | 0, _ => .error (.namesTaken target.directory)
  | tries + 1, k =>
    let path := temporaryPath fs target (temporaryName k)
    match fs.resolve false path with
    | .error e => .error (.temporary e path)
    | .ok (.found _ _) => firstPlace fs target tries (k + 1)
    | .ok (.free place) => .ok place

/-- Where the temporary file for the sidecar at a path goes.  Chance says where among the names the
search for one begins, so that any free one may be the first. -/
def temporaryPlace (fs : FileSystem) (target : Path) : Except IoError Place :=
  firstPlace fs target nameCount (fs.chance target)

/-- The error of a call on a temporary file that fails.  The calls that are made by way of the path
tell the path. -/
def callError (call : Call) (e : Errno) (temporary : Path) : IoError :=
  match call with
  | .create | .write | .flush => .temporary e temporary
  | .setMode | .sync | .rename | .remove => .os e

/-! ## The plan -/

/-- What is done to write a sidecar, and what comes of it. -/
structure Plan where
  /-- The changes, in order. -/
  changes : List Change
  /-- Where the sidecar is, or why it could not be written. -/
  result : Except Error Path

/-- The place that a new sidecar takes; a directory gives none. -/
def targetPlace (fs : FileSystem) (target : Path) : Except Errno Place :=
  match fs.resolve false target with
  | .error e => .error e
  | .ok (.free place) => .ok place
  | .ok (.found loc n) =>
    match Place.ofLocation? loc, n.isDirectory with
    | some place, false => .ok place
    | _, _ => .error .isDirectory

/-- The place that a new sidecar takes, if it can be put there. -/
def placing (device : Device) (fs : FileSystem) (target : Path) : Except Errno Place :=
  match device .rename with
  | some r => .error r.errno
  | none => targetPlace fs target

/-- The changes that make the complete temporary file. -/
def draft (fs : FileSystem) (target : Path) (temporary : Place) (contents : Bytes) :
    List Change :=
  let mode :=
    match fs.status target with
    | .ok (.file mode _) => [Change.setMode temporary mode]
    | _ => []
  .create temporary (fs.masked newMode) :: mode ++
    [.write temporary contents, .flush temporary, .sync temporary]

/-- Some changes to a temporary file, which goes away again if it has been made. -/
def giveUp (temporary : Place) : List Change → List Change
  | [] => []
  | changes => changes ++ [.remove temporary]

/-- The plan for writing the sidecar of a media file. -/
def Plan.make (device : Device) (fs : FileSystem) (media : Path) (metadata : Metadata) : Plan :=
  let target := pathFor media
  match Frontmatter.renderChars metadata with
  | .error e => ⟨[], .error (.unwritable e)⟩
  | .ok text =>
    match temporaryPlace fs target with
    | .error e => ⟨[], .error (.io e)⟩
    | .ok temporary =>
      let changes := draft fs target temporary (Text.Utf8.encodeChars text)
      match device.failure? changes with
      | some (call, e) =>
        ⟨giveUp temporary (device.done changes),
          .error (.io (callError call e (temporaryPath fs target temporary.name)))⟩
      | none =>
        match placing device fs target with
        | .ok place => ⟨changes ++ [.rename temporary place], .ok target⟩
        | .error e => ⟨giveUp temporary changes, .error (.persist target e)⟩

/-- Writes the sidecar of a media file over the one that is there, if any, on a device. -/
def writeOn (device : Device) (fs : FileSystem) (media : Path) (metadata : Metadata) :
    FileSystem × Except Error Path :=
  let plan := Plan.make device fs media metadata
  (fs.applyAll plan.changes, plan.result)

/-- Writes the sidecar of a media file over the one that is there, if any. -/
def write (fs : FileSystem) (media : Path) (metadata : Metadata) :
    FileSystem × Except Error Path :=
  writeOn .sound fs media metadata

end Sidecars.Sidecar
