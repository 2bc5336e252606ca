import Sidecars.Log
import Sidecars.Settings.Stop

/-!
# The command line

`read` goes through the arguments one after the other.  A word behind two hyphens and a letter
behind one are options; everything else is a value: of the option before it if that still waits
for one, otherwise the path.  Behind a lone `--` everything is a value.

A value is not looked at when it is met but when something else follows, so that an argument that
is unknown is complained about before a value that is wrong.
-/

namespace Sidecars.Settings

/-- The log level of a word, in any case. -/
def levelOfWord? (word : String) : Option LogLevel :=
  LogLevel.all.find? fun level => level.word = String.ofList (word.toList.map Char.toUpper)

/-- What the command line gives. -/
structure Given where
  /-- The path. -/
  mediaPath : Option Path
  /-- Whether the progress bar is left out. -/
  noProgress : Bool
  /-- The log level. -/
  logLevel : Option LogLevel
  /-- The arguments that were taken, in order. -/
  used : List Argument
deriving DecidableEq, Repr

/-- What an empty command line gives. -/
def Given.empty : Given := ⟨none, false, none, []⟩

namespace CommandLine

/-- A value that has not been looked at. -/
inductive Pending where
  /-- There is none. -/
  | nothing
  /-- That of the path. -/
  | path (value : Bytes)
  /-- That of the log level, which may still be to come. -/
  | level (value : Option Bytes)
deriving DecidableEq, Repr

/-- Takes a log level. -/
def takeLevel (g : Given) (value : Bytes) : Except Stop Given :=
  if g.logLevel.isSome then .error (.fault (.repeated .logLevel))
  else
    match Text.Utf8.decode? value with
    | none => .error (.fault .notText)
    | some word =>
      match levelOfWord? word with
      | none => .error (.fault (.badLevel word))
      | some level => .ok { g with logLevel := some level, used := g.used ++ [.logLevel] }

/-- Takes a path. -/
def takePath (g : Given) (value : Bytes) : Except Stop Given :=
  if value = [] then .error (.fault (.missingValue .mediaPath))
  else .ok { g with mediaPath := some ⟨value⟩, used := g.used ++ [.mediaPath] }

/-- Looks at the value that has not been looked at. -/
def settle (g : Given) : Pending → Except Stop Given
  | .nothing => .ok g
  | .path value => takePath g value
  | .level (some value) => takeLevel g value
  | .level none => .error (.fault (.missingValue .logLevel))

/-- The arguments that a complaint tells as used.  A value that is wrong does not make its argument
less used, but one that comes twice is not counted at all. -/
def usedWith (g : Given) : Pending → List Argument
  | .nothing => g.used
  | .path _ => g.used ++ [.mediaPath]
  | .level none => g.used
  | .level (some _) =>
    if g.used.contains .logLevel then g.used.filter (· ≠ .logLevel) else g.used ++ [.logLevel]

/-- Arguments with one more, unless it is among them. -/
def including (used : List Argument) (a : Argument) : List Argument :=
  if used.contains a then used else used ++ [a]

/-- The complaint about an unknown word behind two hyphens. -/
def unknownLong (g : Given) (p : Pending) (word : String) : Stop :=
  let used := usedWith g p
  .fault <| match Argument.similar? word with
    | some a => .unknownArgument ("--" ++ word) (.similar a) (including used a)
    | none => .unknownArgument ("--" ++ word) .escape used

/-- The complaint about an unknown argument that is no word behind two hyphens. -/
def unknown (text : String) (tip : Tip) : Stop := .fault (.unknownArgument text tip [])

/-- An argument, as it looks. -/
inductive Shape where
  /-- Two hyphens and nothing else. -/
  | escape
  /-- A word behind two hyphens, and what is behind an equality sign. -/
  | long (word : Bytes) (value : Option Bytes)
  /-- A letter behind a hyphen, as far as it is one, and how a message shows it. -/
  | short (letter : Option Char) (shown : String)
  /-- Anything else. -/
  | plain
deriving DecidableEq, Repr

/-- What is before the first equality sign, and what is behind it. -/
def splitAtEqual (bs : Bytes) : Bytes × Option Bytes :=
  match bs.dropWhile (· ≠ 0x3D) with
  | [] => (bs, none)
  | _ :: value => (bs.takeWhile (· ≠ 0x3D), some value)

/-- How an argument looks. -/
def Shape.of : Bytes → Shape
  | 0x2D :: 0x2D :: [] => .escape
  | 0x2D :: 0x2D :: rest => .long (splitAtEqual rest).1 (splitAtEqual rest).2
  | 0x2D :: b :: rest =>
    match Text.Utf8.pieces (b :: rest) with
    | .char c :: _ => .short (some c) (String.ofList ['-', c])
    | _ => .short none ("-" ++ Text.Utf8.decodeLossy (b :: rest))
  | _ => .plain

/-- Takes a switch or a request, behind which a value may not stand. -/
def takeBare (g : Given) (p : Pending) (a : Argument) (value : Option Bytes) : Except Stop Given :=
  match value with
  | some value =>
    .error (.fault (.unneededValue a (Text.Utf8.decodeLossy value) (including g.used a)))
  | none =>
    match settle g p with
    | .error stop => .error stop
    | .ok g =>
      match a with
      | .help => .error .help
      | .version => .error .version
      | a =>
        if g.noProgress then .error (.fault (.repeated a))
        else .ok { g with noProgress := true, used := g.used ++ [a] }

/-- Goes through the arguments.  `escaped` says that a lone `--` has been met. -/
def readFrom : (escaped : Bool) → Given → Pending → List Bytes → Except Stop Given
  | _, g, p, [] => settle g p
  | escaped, g, p, arg :: rest =>
    match (if escaped then Shape.plain else Shape.of arg) with
    | .escape => readFrom true g p rest
    | .long word value =>
      match Text.Utf8.decode? word with
      | none => .error (unknownLong g p (Text.Utf8.decodeLossy word))
      | some word =>
        match Argument.ofLong? word with
        | none => .error (unknownLong g p word)
        | some .logLevel =>
          match settle g p with
          | .error stop => .error stop
          | .ok g =>
            match value with
            | none => readFrom escaped g (.level none) rest
            | some value =>
              match takeLevel g value with
              | .error stop => .error stop
              | .ok g => readFrom escaped g .nothing rest
        | some a =>
          match takeBare g p a value with
          | .error stop => .error stop
          | .ok g => readFrom escaped g .nothing rest
    | .short letter shown =>
      match letter.bind Argument.ofShort? with
      | none => .error (unknown shown .escape)
      | some a =>
        match takeBare g p a none with
        | .error stop => .error stop
        | .ok g => readFrom escaped g .nothing rest
    | .plain =>
      if ¬ escaped ∧ p = .level none then readFrom escaped g (.level (some arg)) rest
      else if g.mediaPath.isSome ∨ p matches .path _ then
        .error (unknown (Text.Utf8.decodeLossy arg) .none)
      else
        match settle g p with
        | .error stop => .error stop
        | .ok g => readFrom escaped g (.path arg) rest

/-- What the arguments give. -/
def read (args : List Bytes) : Except Stop Given := readFrom false Given.empty .nothing args

end CommandLine
end Sidecars.Settings
