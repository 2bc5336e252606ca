import Sidecars.Scan
import Sidecars.Settings

/-!
# The program

A run of the program takes its settings from the arguments, the environment and a file of variables
in the current directory or above it, scans the directory, prints the log, and ends with a status:
0 when all went well, 1 when the scan could not be made or something went wrong with a file, and 2
when the settings are wrong.  If the file of variables has a value that cannot be set, the program
breaks down with the status 101.
-/

namespace Sidecars.Program

/-- What a run leads to. -/
structure Result where
  /-- The status with which the program ends. -/
  code : Nat
  /-- What is printed. -/
  stdout : String
  /-- What is printed about errors. -/
  stderr : String
  /-- The file system afterwards. -/
  system : FileSystem

/-- The name of a file of variables. -/
def envFileName : Bytes := Binary.ascii ".env"

/-- What there is for a file of variables in a directory. -/
inductive EnvFileSearch where
  /-- The file. -/
  | found (contents : Bytes)
  /-- Nothing, so that the search goes on above. -/
  | absent
  /-- Something that cannot be looked at, so that the search ends. -/
  | broken
deriving DecidableEq, Repr

/-- Looks for a file of variables in a directory. -/
def searchEnvFile (fs : FileSystem) (directory : Location) : EnvFileSearch :=
  match fs.status ((FileSystem.absolutePath directory).join envFileName) with
  | .ok (.file _ contents) => .found contents
  | .ok _ => .absent
  | .error .noEntry => .absent
  | .error _ => .broken

/-- The first file of variables on the way upwards from a directory.  The names that lead to the
directory are given from the last one. -/
def nearestEnvFile (fs : FileSystem) : List Name → Option Bytes
  | [] =>
    match searchEnvFile fs [] with
    | .found contents => some contents
    | .absent | .broken => none
  | name :: rest =>
    match searchEnvFile fs (name :: rest).reverse with
    | .found contents => some contents
    | .absent => nearestEnvFile fs rest
    | .broken => none

/-- The first variable that the nearest file of variables assigns a value that cannot be set, and
that value. -/
def unsettable? (env : Settings.Environment) (fs : FileSystem) : Option (String × String) :=
  (nearestEnvFile fs fs.current.reverse).bind (Settings.EnvFile.unsettable? env)

/-- The environment with the assignments of the nearest file of variables. -/
def environment (env : Settings.Environment) (fs : FileSystem) : Settings.Environment :=
  match nearestEnvFile fs fs.current.reverse with
  | some contents => Settings.EnvFile.extend env contents
  | none => env

/-- What the program prints about an error that ends it. -/
def complaint : Error → String
  | .pathNotFound p => "PathNotFound(" ++ p.quoted ++ ")"
  | .notADirectory p => "NotADirectory(" ++ p.quoted ++ ")"
  | .failures n => s!"Failures({n})"
  | e => e.message

/-- The records that a threshold lets through, as lines. -/
def printed (threshold : LogLevel) (log : List LogRecord) : String :=
  String.join ((log.filter (LogRecord.passes threshold)).map fun r => r.line ++ "\n")

/-- The end of a run with an error. -/
def failure (e : Error) (stdout : String) (fs : FileSystem) : Result :=
  ⟨1, stdout, "Error: " ++ complaint e ++ "\n", fs⟩

/-- A run with given settings. -/
def runWith (s : Settings) (fs : FileSystem) : Result :=
  match Scan.run Dispatcher.standard fs s.mediaPath s.showProgress with
  | .error e => failure e "" fs
  | .ok scan =>
    let stdout := printed s.logLevel scan.log
    if 0 < scan.failed then failure (.failures scan.failed) stdout scan.system
    else ⟨0, stdout, "", scan.system⟩

/-- A run of the program whose environment has the assignments of files of variables already. -/
def runIn (args : List Bytes) (env : Settings.Environment) (fs : FileSystem) : Result :=
  match Settings.parse args env with
  | .error (.fault f) => ⟨2, "", f.message, fs⟩
  | .error stop => ⟨0, stop.message env, "", fs⟩
  | .ok s => runWith s fs

/-- What is printed when the program breaks down over a variable, without the place in the program
where that happens. -/
def breakdown (name value : String) : String :=
  "failed to set environment variable \x60" ++ (Path.ofString name).quoted ++ "\x60 to \x60" ++
    (Path.ofString value).quoted ++ "\x60: " ++ Errno.zeroByte.message ++ "\n"

/-- A run of the program. -/
def run (args : List Bytes) (env : Settings.Environment) (fs : FileSystem) : Result :=
  match unsettable? env fs with
  | some (name, value) => ⟨101, "", breakdown name value, fs⟩
  | none => runIn args (environment env fs) fs

end Sidecars.Program
