import Sidecars.Yaml.Style
import Sidecars.Text.Escaped

/-!
# Written forms of a scalar

The text of a scalar in each style, given the column `indent` at which the lines after its first
one start.  A line feed never stands inside quotes; other line breaks may, and the line after them
is indented.
-/

namespace Sidecars.Yaml

/-- A run of spaces. -/
def spaces (n : Nat) : List Char := List.replicate n ' '

namespace Quoting

/-- Copies lines, indenting each that is not empty; `fresh` says whether a line is about to
start. -/
def indented (indent : Nat) : Bool → List Char → List Char
  | _, [] => []
  | fresh, c :: rest =>
    if isBreak c then c :: indented indent true rest
    else (if fresh then spaces indent else []) ++ c :: indented indent false rest

/-- The inside of a text between single quotes: a quote is written twice. -/
def doubled (s : List Char) : List Char :=
  s.flatMap fun c => if c = '\'' then ['\'', '\''] else [c]

/-- A text between single quotes. -/
def single (indent : Nat) (s : List Char) : List Char :=
  let body := indented indent false (doubled s)
  let close := if s.getLast?.any isBreak then spaces indent else []
  '\'' :: body ++ close ++ ['\'']

/-- A number as upper-case hexadecimal digits, exactly `width` of them. -/
def hex (width n : Nat) : List Char :=
  (Text.Escaped.fixedDigits 16 width n).map Char.toUpper

/-- The escape of a character that has a letter of its own. -/
def letter? (c : Char) : Option Char :=
  match c.toNat with
  | 0x00 => some '0'
  | 0x07 => some 'a'
  | 0x08 => some 'b'
  | 0x09 => some 't'
  | 0x0A => some 'n'
  | 0x0B => some 'v'
  | 0x0C => some 'f'
  | 0x0D => some 'r'
  | 0x1B => some 'e'
  | 0x22 => some '"'
  | 0x5C => some '\\'
  | 0x85 => some 'N'
  | 0xA0 => some '_'
  | 0x2028 => some 'L'
  | 0x2029 => some 'P'
  | _ => none

/-- A character inside double quotes. -/
def escaped (c : Char) : List Char :=
  if isPrintable c && !isBreak c && c ≠ '"' && c ≠ '\\' then [c]
  else match letter? c with
    | some l => ['\\', l]
    | none =>
      let n := c.toNat
      if n ≤ 0xFF then '\\' :: 'x' :: hex 2 n
      else if n ≤ 0xFFFF then '\\' :: 'u' :: hex 4 n
      else '\\' :: 'U' :: hex 8 n

/-- A text between double quotes. -/
def double (s : List Char) : List Char :=
  '"' :: s.flatMap escaped ++ ['"']

/-- The indentation hint of a block: needed when its first line does not show the indentation. -/
def indentHint : List Char → List Char
  | c :: _ => if c = ' ' || isBreak c then ['2'] else []
  | [] => []

/-- How the line breaks at the end of a block are to be kept: `-` for none, `+` for more than one,
nothing for one. -/
def chompHint (s : List Char) : List Char :=
  match s.reverse with
  | [] => ['-']
  | [c] => if isBreak c then ['+'] else ['-']
  | c :: b :: _ => if !isBreak c then ['-'] else if isBreak b then ['+'] else []

/-- A literal block. -/
def literal (indent : Nat) (s : List Char) : List Char :=
  '|' :: indentHint s ++ chompHint s ++ '\n' :: indented indent true s

/-- A scalar in the given style. -/
def write (style : Style) (indent : Nat) (s : List Char) : List Char :=
  match style with
  | .plain => s
  | .single => single indent s
  | .double => double s
  | .literal => literal indent s

/-- A text followed by a line feed, unless it ends with a line break of its own. -/
def endLine (s : List Char) : List Char :=
  if s.getLast?.any isBreak then s else s ++ ['\n']

end Quoting
end Sidecars.Yaml
