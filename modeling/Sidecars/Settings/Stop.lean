import Sidecars.Settings.Argument

/-!
# What is said in place of a run

Instead of a run the user may get the help text, the version, or a fault of the command line or of
a variable that stands in for a part of it.
-/

namespace Sidecars.Settings

/-- What is proposed about an argument that is unknown. -/
inductive Tip where
  /-- Nothing. -/
  | none
  /-- Another argument, of a similar word. -/
  | similar (a : Argument)
  /-- To put two hyphens before it. -/
  | escape
deriving DecidableEq, Repr

/-- What is wrong with the settings. -/
inductive Fault where
  /-- An argument that is unknown, after the given ones. -/
  | unknownArgument (text : String) (tip : Tip) (used : List Argument)
  /-- An argument that is given twice. -/
  | repeated (a : Argument)
  /-- A value where there may be none, after the given arguments. -/
  | unneededValue (a : Argument) (value : String) (used : List Argument)
  /-- An argument without its value. -/
  | missingValue (a : Argument)
  /-- A word that is no log level. -/
  | badLevel (value : String)
  /-- A word that is neither of the two truth values. -/
  | badSwitch (value : String)
  /-- A value that is no text. -/
  | notText
deriving DecidableEq, Repr

/-- Why there is no run. -/
inductive Stop where
  /-- Help was asked for. -/
  | help
  /-- The version was asked for. -/
  | version
  /-- Something is wrong. -/
  | fault (f : Fault)
deriving DecidableEq, Repr

/-! ## Wordings -/

/-- The name of the program. -/
def programName : String := "media-sidecar"

/-- The version of the program. -/
def programVersion : String := "0.1.0"

/-- How the program is called in general. -/
def generalUsage : String := programName ++ " [OPTIONS] [MEDIA_PATH]"

/-- How the program is called with some arguments: the options first. -/
def usageWith (used : List Argument) : String :=
  if used = [] then generalUsage
  else
    let options := used.filterMap fun a => if a = .mediaPath then none else some a.shown
    let path := if used.contains .mediaPath then "<MEDIA_PATH>" else Argument.mediaPath.shown
    " ".intercalate (programName :: options ++ [path])

/-- The words for the two truth values. -/
def switchWords : List String := ["true", "false"]

/-- The list of the words that a switch takes. -/
def switchValues : String := "\n  [possible values: " ++ ", ".intercalate switchWords ++ "]"

/-- What is proposed about an unknown argument. -/
def Tip.message (text : String) : Tip → String
  | .none => ""
  | .similar a => "\n\n  tip: a similar argument exists: '--" ++ a.long?.getD text ++ "'"
  | .escape => s!"\n\n  tip: to pass '{text}' as a value, use '-- {text}'"

namespace Fault

/-- What is wrong, in a line or some more. -/
def summary : Fault → String
  | .unknownArgument text tip _ => s!"unexpected argument '{text}' found" ++ tip.message text
  | .repeated a => s!"the argument '{a.shown}' cannot be used multiple times"
  | .unneededValue a value _ =>
    s!"unexpected value '{value}' for '{a.shown}' found; no more were expected"
  | .missingValue a =>
    s!"a value is required for '{a.shown}' but none was supplied" ++
      if a = .noProgress then switchValues else ""
  | .badLevel value =>
    s!"invalid value '{value}' for '{Argument.logLevel.shown}': " ++
      "attempted to convert a string that doesn't match an existing log level"
  | .badSwitch value =>
    s!"invalid value '{value}' for '{Argument.noProgress.shown}'" ++ switchValues ++
      match Text.Similarity.best? value switchWords with
      | some word => s!"\n\n  tip: a similar value exists: '{word}'"
      | none => ""
  | .notText => "invalid UTF-8 was detected in one or more arguments"

/-- How the program would be called, where that is said. -/
def usage? : Fault → Option String
  | .unknownArgument _ _ used => some (usageWith used)
  | .repeated _ => some generalUsage
  | .unneededValue _ _ used => some (usageWith used)
  | .notText => some generalUsage
  | .missingValue _ => none
  | .badLevel _ => none
  | .badSwitch _ => none

/-- The whole text about a fault. -/
def message (f : Fault) : String :=
  "error: " ++ f.summary ++
    (match f.usage? with
      | some usage => "\n\nUsage: " ++ usage
      | none => "") ++
    "\n\nFor more information, try '--help'.\n"

end Fault

/-! ## Help -/

/-- A text whose further lines are moved to the right. -/
def indented (width : Nat) (s : String) : String :=
  String.ofList <| s.toList.flatMap fun c =>
    if c = '\n' then '\n' :: List.replicate width ' ' else [c]

/-- What the help tells about the variable that stands in for an argument. -/
def variableNote (env : Environment) (a : Argument) : String :=
  match a.envName? with
  | some name => " [env: " ++ name ++ "=" ++ (env.value? name).getD "" ++ "]"
  | none => ""

/-- A line of the help, with its text at a column. -/
def helpLine (column : Nat) (lead text : String) : String :=
  "  " ++ lead ++ String.ofList (List.replicate (column - 2 - lead.length) ' ') ++
    indented column text ++ "\n"

/-- The help text, which tells the values of the variables too. -/
def helpText (env : Environment) : String :=
  "Writes the embedded metadata of every image and audio file under a directory to " ++
    "\x60<file>.metadata.md\x60 sidecars\n\nUsage: " ++ generalUsage ++ "\n\nArguments:\n" ++
    helpLine 16 "[MEDIA_PATH]"
      ("Directory to scan" ++ variableNote env .mediaPath ++ " [default: ./]") ++
    "\nOptions:\n" ++
    helpLine 31 "    --no-progress" ("Do not draw a progress bar" ++ variableNote env .noProgress) ++
    helpLine 31 "    --log-level <LOG_LEVEL>"
      ("off, error, warn, info, debug or trace" ++ variableNote env .logLevel ++
        " [default: info]") ++
    helpLine 31 "-h, --help" "Print help" ++
    helpLine 31 "-V, --version" "Print version"

/-- The whole text in place of a run. -/
def Stop.message (env : Environment) : Stop → String
  | .help => helpText env
  | .version => programName ++ " " ++ programVersion ++ "\n"
  | .fault f => f.message

end Sidecars.Settings
