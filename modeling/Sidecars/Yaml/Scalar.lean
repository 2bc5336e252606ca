import Sidecars.Number.Binary64

/-!
# What an unquoted scalar means

An unquoted scalar is null, a truth value, an integer, a floating-point number or, failing all of
these, a text.  The same rules decide which texts have to be quoted when they are written.

Integers are decimal, or hexadecimal, octal or binary behind `0x`, `0o` and `0b`, with an optional
sign in front.  Decimal digits behind a needless zero are a text.  Integers outside 64 bits but
within 128 are recognised and have no place in a document.
-/

namespace Sidecars.Yaml.Scalar

/-- What an unquoted scalar means. -/
inductive Meaning where
  /-- No value. -/
  | null
  /-- True or false. -/
  | bool (b : Bool)
  /-- An integer of at most 64 bits. -/
  | int (n : Int)
  /-- An integer that needs up to 128 bits. -/
  | wide (n : Int)
  /-- A floating-point number. -/
  | float (x : Binary64)
  /-- A text. -/
  | text
deriving DecidableEq, Repr

/-- The value of a digit. -/
def digit? (base : Nat) (c : Char) : Option Nat :=
  let n := c.toNat
  let v :=
    if 0x30 ≤ n ∧ n ≤ 0x39 then n - 0x30
    else if 0x61 ≤ n ∧ n ≤ 0x7A then n - 0x57
    else if 0x41 ≤ n ∧ n ≤ 0x5A then n - 0x37
    else base
  if v < base then some v else none

/-- The number that digits spell after the digits of `acc`. -/
def digitsFrom? (base : Nat) (acc : Nat) : List Char → Option Nat
  | [] => some acc
  | c :: rest => (digit? base c).bind fun d => digitsFrom? base (acc * base + d) rest

/-- The number that a non-empty list of digits spells. -/
def natural? (base : Nat) (s : List Char) : Option Nat :=
  if s = [] then none else digitsFrom? base 0 s

/-- Whether a character is a sign. -/
def isSign (c : Char) : Bool := c = '+' || c = '-'

/-- A decimal with a needless zero in front: not a number but a text. -/
def isPaddedDigits (s : List Char) : Bool :=
  let body := match s with
    | c :: rest => if isSign c then rest else s
    | [] => []
  match body with
  | '0' :: d :: rest => (d :: rest).all Char.isDigit
  | _ => false

/-- The magnitude of an integer without its sign. -/
def magnitude? : List Char → Option Nat
  | '0' :: 'x' :: rest => natural? 16 rest
  | '0' :: 'o' :: rest => natural? 8 rest
  | '0' :: 'b' :: rest => natural? 2 rest
  | s => if isPaddedDigits s then none else natural? 10 s

/-- The meaning of an integer. -/
def integer? (s : List Char) : Option Meaning :=
  match s with
  | '-' :: rest =>
    (magnitude? rest).bind fun n =>
      if n ≤ Nat.pow 2 63 then some (.int (-n))
      else if n ≤ Nat.pow 2 127 then some (.wide (-n))
      else none
  | _ =>
    let body := match s with
      | '+' :: rest => rest
      | _ => s
    (magnitude? body).bind fun n =>
      if n < Nat.pow 2 64 then some (.int n)
      else if n < Nat.pow 2 128 then some (.wide n)
      else none

/-- Reads `[sign] digits` as an exponent. -/
def exponent? : List Char → Option Int
  | '-' :: rest => (natural? 10 rest).map fun n => -(n : Int)
  | '+' :: rest => (natural? 10 rest).map Int.ofNat
  | rest => (natural? 10 rest).map Int.ofNat

/-- The number nearest to an unsigned decimal fraction: digits with a point anywhere among them or
around them, and an optional exponent. -/
def fraction? (negative : Bool) (s : List Char) : Option Binary64 :=
  let whole := s.takeWhile Char.isDigit
  let rest := s.dropWhile Char.isDigit
  let places := match rest with
    | '.' :: more => more.takeWhile Char.isDigit
    | _ => []
  let rest := match rest with
    | '.' :: more => more.dropWhile Char.isDigit
    | _ => rest
  let power? := match rest with
    | [] => some 0
    | e :: more => if e = 'e' ∨ e = 'E' then exponent? more else none
  match natural? 10 (whole ++ places), power? with
  | some digits, some power => some (.ofDecimal negative digits (power - places.length))
  | _, _ => none

/-- The meaning of a floating-point number: finite, or one of the words for infinity and for not a
number. -/
def float? (s : List Char) : Option Binary64 :=
  let unplussed := match s with
    | '+' :: rest => rest
    | _ => s
  let word := String.ofList unplussed
  if word = ".inf" ∨ word = ".Inf" ∨ word = ".INF" then some (.infinity false)
  else if String.ofList s = "-.inf" ∨ String.ofList s = "-.Inf" ∨ String.ofList s = "-.INF" then
    some (.infinity true)
  else if String.ofList s = ".nan" ∨ String.ofList s = ".NaN" ∨ String.ofList s = ".NAN" then
    some .nan
  else
    let number := match s with
      | '+' :: rest => fraction? false rest
      | '-' :: rest => fraction? true rest
      | _ => fraction? false s
    number.bind fun x => if x.isFinite then some x else none

/-- Whether a text is one of the words for null. -/
def isNullWord (s : String) : Bool :=
  s = "null" || s = "Null" || s = "NULL" || s = "~"

/-- The truth value that a word stands for. -/
def bool? (s : String) : Option Bool :=
  if s = "true" ∨ s = "True" ∨ s = "TRUE" then some true
  else if s = "false" ∨ s = "False" ∨ s = "FALSE" then some false
  else none

/-- The meaning of an unquoted scalar. -/
def meaning (s : String) : Meaning :=
  if s = "" ∨ isNullWord s then .null
  else match bool? s with
    | some b => .bool b
    | none =>
      match integer? s.toList with
      | some m => m
      | none =>
        if isPaddedDigits s.toList then .text
        else match float? s.toList with
          | some x => .float x
          | none => .text

end Sidecars.Yaml.Scalar
