import Sidecars.Path
import Sidecars.Text.Similarity

/-!
# The arguments of the command line

The program takes a path, two options and the usual requests for help and for its version.  The
path and the options have environment variables that stand in for them.
-/

namespace Sidecars.Settings

/-- What may be given on the command line. -/
inductive Argument where
  /-- The directory to scan. -/
  | mediaPath
  /-- Whether the progress bar is left out. -/
  | noProgress
  /-- How much of the log is printed. -/
  | logLevel
  /-- The request for help. -/
  | help
  /-- The request for the version. -/
  | version
deriving DecidableEq, Repr

namespace Argument

/-- The word behind two hyphens; the path has none. -/
def long? : Argument → Option String
  | .mediaPath => none
  | .noProgress => some "no-progress"
  | .logLevel => some "log-level"
  | .help => some "help"
  | .version => some "version"

/-- The arguments that have a word, in the order in which suggestions look at them. -/
def named : List Argument := [.noProgress, .logLevel, .help, .version]

/-- The argument of a word. -/
def ofLong? (word : String) : Option Argument := named.find? fun a => a.long? = some word

/-- The argument of a letter behind one hyphen. -/
def ofShort? (c : Char) : Option Argument :=
  if c = 'h' then some .help else if c = 'V' then some .version else none

/-- The argument as a message shows it. -/
def shown : Argument → String
  | .mediaPath => "[MEDIA_PATH]"
  | .noProgress => "--no-progress"
  | .logLevel => "--log-level <LOG_LEVEL>"
  | .help => "--help"
  | .version => "--version"

/-- The environment variable that stands in for an argument. -/
def envName? : Argument → Option String
  | .mediaPath => some "MEDIA_PATH"
  | .noProgress => some "SIDECAR_NO_PROGRESS"
  | .logLevel => some "SIDECAR_LOG_LEVEL"
  | .help => none
  | .version => none

/-- The argument whose word is most similar to a given one. -/
def similar? (word : String) : Option Argument :=
  (Text.Similarity.best? word (named.filterMap long?)).bind ofLong?

end Argument

/-- The variables of an environment with their values; of one name only the first counts.

The values are texts, as those are that a file of variables can assign.  The system allows other
bytes too, and every reader treats them in its own way: the path is taken as it is, the other two
settings are refused, and a file of variables assigns over such a value as if none were set.  They
are left out, since the order of the sources is one among values that all of them can read. -/
abbrev Environment := List (String × String)

/-- The value of a variable; a name without a character is none. -/
def Environment.value? (env : Environment) (name : String) : Option String :=
  if name = "" then none else env.lookup name

/-- The value of the variable that stands in for an argument. -/
def Environment.for? (env : Environment) (a : Argument) : Option String :=
  a.envName?.bind env.value?

end Sidecars.Settings
