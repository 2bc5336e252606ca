import Sidecars.Settings.CommandLine
import Sidecars.Settings.EnvFile

/-!
# The settings of a run

Each setting comes from the first source that gives it: the command line, the environment (to which
a file of variables may have added), and last a default.  What a later source says about a setting
that an earlier one gives is not even looked at.
-/

namespace Sidecars

/-- The settings of a run. -/
structure Settings where
  /-- The directory to scan. -/
  mediaPath : Path
  /-- Whether the progress bar is left out. -/
  noProgress : Bool
  /-- How much of the log is printed. -/
  logLevel : LogLevel
deriving DecidableEq, Repr

namespace Settings

/-- The settings if no source gives any. -/
def standard : Settings := ⟨.ofString "./", false, .info⟩

/-- The path, if the environment gives one. -/
def pathFrom (env : Environment) : Except Stop (Option Path) :=
  match env.for? .mediaPath with
  | none => .ok none
  | some value =>
    if value = "" then .error (.fault (.missingValue .mediaPath)) else .ok (some (.ofString value))

/-- Whether the progress bar is left out, if the environment says so. -/
def noProgressFrom (env : Environment) : Except Stop (Option Bool) :=
  match env.for? .noProgress with
  | none => .ok none
  | some value =>
    if value = "true" then .ok (some true)
    else if value = "false" then .ok (some false)
    else if value = "" then .error (.fault (.missingValue .noProgress))
    else .error (.fault (.badSwitch value))

/-- The log level, if the environment gives one. -/
def logLevelFrom (env : Environment) : Except Stop (Option LogLevel) :=
  match env.for? .logLevel with
  | none => .ok none
  | some value =>
    match levelOfWord? value with
    | none => .error (.fault (.badLevel value))
    | some level => .ok (some level)

/-- What a source gives, or else what the next one gives, or else a default. -/
def choose {α : Type} (given : Option α) (next : Except Stop (Option α)) (default : α) :
    Except Stop α :=
  match given with
  | some a => .ok a
  | none =>
    match next with
    | .error stop => .error stop
    | .ok a => .ok (a.getD default)

/-- The settings from what the command line gives and from the environment. -/
def ofGiven (g : Given) (env : Environment) : Except Stop Settings := do
  let mediaPath ← choose g.mediaPath (pathFrom env) standard.mediaPath
  let noProgress ←
    choose (if g.noProgress then some true else none) (noProgressFrom env) standard.noProgress
  let logLevel ← choose g.logLevel (logLevelFrom env) standard.logLevel
  return ⟨mediaPath, noProgress, logLevel⟩

/-- The settings from the arguments and the environment. -/
def parse (args : List Bytes) (env : Environment) : Except Stop Settings :=
  match CommandLine.read args with
  | .error stop => .error stop
  | .ok g => ofGiven g env

/-- Whether a scan with these settings has a progress bar. -/
def showProgress (s : Settings) : Bool := !s.noProgress

end Settings
end Sidecars
