import Sidecars.Settings.Argument
import Sidecars.Text.Alphanumeric
import Sidecars.Text.Utf8

/-!
# Files of environment variables

A file of this sort assigns values to variables, one in a line: a name, an equality sign and a
value.  A line may start with the word `export`, and a `#` behind space starts a comment.

In a value a backslash takes the meaning from the next character, text between single quotes stands
for itself, and between double quotes space does too.  A `$` with a name, which may be in braces,
stands for the value of a variable, be it from the environment or from an earlier line.

A line that is not of this form ends the file.  A variable that is set already keeps its value.

The system does not take a value with a zero character, and the program breaks down when it tries to
set one.  `unsettable?` is the first assignment of such a value, and `extend` is what comes of a
file that has none.
-/

namespace Sidecars.Settings.EnvFile

open Text.Alphanumeric (isSpace)

/-! ## Values -/

/-- Where in a value one is. -/
inductive Mode where
  /-- In text. -/
  | text
  /-- Behind a backslash. -/
  | escaped
  /-- Between single quotes. -/
  | quoted
  /-- In the name of a variable, of which some characters are read, the last one first. -/
  | name (soFar : List Char)
  /-- In a name in braces. -/
  | braced (soFar : List Char)
  /-- Behind the value. -/
  | behind
deriving DecidableEq, Repr

/-- The character that an escaped one stands for. -/
def unescape? (c : Char) : Option Char :=
  if c ∈ ['\\', '\'', '"', '$', ' '] then some c else if c = 'n' then some '\n' else none

/-- The value of the variable whose name is given backwards; empty when it is not set. -/
def substitute (env : Environment) (reversedName : List Char) : List Char :=
  ((env.value? (String.ofList reversedName.reverse)).getD "").toList

/-- The rest of a value.  `inside` says whether one is between double quotes. -/
def readValue (env : Environment) : (inside : Bool) → Mode → List Char → Option (List Char)
  | inside, mode, [] =>
    match mode with
    | .braced _ | .quoted => none
    | .name soFar => if inside then none else some (substitute env soFar)
    | .text | .escaped | .behind => if inside then none else some []
  | inside, .behind, c :: rest =>
    if c = ' ' ∨ c = '\t' then readValue env inside .behind rest
    else if c = '#' then some []
    else none
  | inside, .escaped, c :: rest => do
    let c ← unescape? c
    return c :: (← readValue env inside .text rest)
  | inside, .quoted, c :: rest =>
    if c = '\'' then readValue env inside .text rest
    else (c :: ·) <$> readValue env inside .quoted rest
  | inside, .name soFar, c :: rest =>
    if Text.Alphanumeric.holds c then readValue env inside (.name (c :: soFar)) rest
    else if c = '\x7b' ∧ soFar = [] then readValue env inside (.braced []) rest
    else if c = '$' then (substitute env soFar ++ ·) <$> readValue env inside (.name []) rest
    else (substitute env soFar ++ c :: ·) <$> readValue env inside .text rest
  | inside, .braced soFar, c :: rest =>
    if c = '\x7d' then (substitute env soFar ++ ·) <$> readValue env inside .text rest
    else readValue env inside (.braced (c :: soFar)) rest
  | inside, .text, c :: rest =>
    if c = '$' then readValue env inside (.name []) rest
    else if c = '\\' then readValue env inside .escaped rest
    else if c = '"' then readValue env (!inside) .text rest
    else if inside then (c :: ·) <$> readValue env inside .text rest
    else if c = '\'' then readValue env inside .quoted rest
    else if c = ' ' ∨ c = '\t' then readValue env inside .behind rest
    else (c :: ·) <$> readValue env inside .text rest

/-! ## Lines -/

/-- Whether a name may start with a character. -/
def startsName (c : Char) : Bool := c.isAlpha || c = '_'

/-- Whether a name may go on with a character. -/
def continuesName (c : Char) : Bool := c.isAlphanum || c = '_' || c = '.'

/-- A name, and what is behind it and behind the space that follows. -/
def readName? (line : List Char) : Option (String × List Char) :=
  match line with
  | c :: _ =>
    if startsName c then
      some (String.ofList (line.takeWhile continuesName),
        (line.dropWhile continuesName).dropWhile isSpace)
    else none
  | [] => none

/-- What is behind an equality sign and the space that follows. -/
def afterEqual? : List Char → Option (List Char)
  | '=' :: rest => some (rest.dropWhile isSpace)
  | _ => none

/-- A name and what is behind its equality sign.  The word `export` in front does not count, unless
it is the name itself. -/
def readTarget? (line : List Char) : Option (String × List Char) := do
  let (name, rest) ← readName? line
  match afterEqual? rest with
  | some value => return (name, value)
  | none =>
    if name = "export" then
      let (name, rest) ← readName? rest
      return (name, ← afterEqual? rest)
    else none

/-- What a line says. -/
inductive Line where
  /-- Nothing. -/
  | blank
  /-- That a variable has a value. -/
  | assignment (name value : String)
deriving DecidableEq, Repr

/-- What a line says in an environment, if it is of the right form. -/
def readLine? (env : Environment) (line : List Char) : Option Line := do
  let line := ((line.reverse.dropWhile isSpace).reverse).dropWhile isSpace
  if line = [] ∨ line.head? = some '#' then return .blank
  let (name, value) ← readTarget? line
  if value = [] ∨ value.head? = some '#' then return .assignment name ""
  return .assignment name (String.ofList (← readValue env false .text value))

/-! ## Files -/

/-- An environment with a variable more, unless it is there. -/
def define (env : Environment) (name value : String) : Environment :=
  if (env.value? name).isSome then env else env ++ [(name, value)]

/-- An environment with the assignments of some lines, up to the first that is not of the right
form. -/
def readLines (env : Environment) : List Bytes → Environment
  | [] => env
  | bytes :: rest =>
    match (Text.Utf8.decodeChars? bytes).bind (readLine? env) with
    | none => env
    | some .blank => readLines env rest
    | some (.assignment name value) => readLines (define env name value) rest

/-- The first variable that some lines assign a value with a zero character, and that value. -/
def unsettableIn? (env : Environment) : List Bytes → Option (String × String)
  | [] => none
  | bytes :: rest =>
    match (Text.Utf8.decodeChars? bytes).bind (readLine? env) with
    | none => none
    | some .blank => unsettableIn? env rest
    | some (.assignment name value) =>
      if env.value? name = none ∧ '\u0000' ∈ value.toList then some (name, value)
      else unsettableIn? (define env name value) rest

/-- The first variable that a file assigns a value that cannot be set, and that value. -/
def unsettable? (env : Environment) (file : Bytes) : Option (String × String) :=
  unsettableIn? env (Binary.splitAt 0x0A file)

/-- An environment with the assignments of a file. -/
def extend (env : Environment) (file : Bytes) : Environment :=
  readLines env (Binary.splitAt 0x0A file)

end Sidecars.Settings.EnvFile
