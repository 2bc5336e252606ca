import Sidecars.Number.Binary64

/-!
# Values of a document

What a YAML document holds, and the ordered mappings in which metadata is kept.  A mapping is a
list of pairs; `insert` keeps the keys apart and in the order of their first insertion.

Equality of values is `same`: mappings are compared without regard to order, and floating-point
numbers by value.
-/

namespace Sidecars.Yaml

/-- A YAML value.  The name of a tag leaves out its exclamation mark. -/
inductive Value where
  /-- No value. -/
  | null
  /-- True or false. -/
  | bool (b : Bool)
  /-- An integer. -/
  | int (n : Int)
  /-- A floating-point number. -/
  | float (x : Binary64)
  /-- A text. -/
  | string (s : String)
  /-- A list of values. -/
  | sequence (items : List Value)
  /-- Pairs of a key and its value. -/
  | mapping (entries : List (Value × Value))
  /-- A value with a tag of the application. -/
  | tagged (tag : String) (value : Value)
deriving Repr, Inhabited

/-- The pairs of a mapping. -/
abbrev Entries := List (Value × Value)

mutual

/-- Equality of values. -/
def Value.same : Value → Value → Bool
  | .null, .null => true
  | .bool a, .bool b => a = b
  | .int a, .int b => a = b
  | .float x, .float y => x.same y
  | .string s, .string t => s = t
  | .sequence xs, .sequence ys => sameItems xs ys
  | .mapping es, .mapping fs => es.length = fs.length && sameEntries es fs
  | .tagged s x, .tagged t y => s = t && Value.same x y
  | _, _ => false

/-- Equality of lists of values, item by item. -/
def sameItems : List Value → List Value → Bool
  | [], [] => true
  | x :: xs, y :: ys => Value.same x y && sameItems xs ys
  | _, _ => false

/-- Whether every pair of one mapping is in another. -/
def sameEntries : List (Value × Value) → List (Value × Value) → Bool
  | [], _ => true
  | (k, v) :: es, fs => fs.any (fun f => Value.same k f.1 && Value.same v f.2) && sameEntries es fs

end

/-- A tag's name from any of its spellings, with or without the exclamation mark. -/
def tagName (spelling : String) : String :=
  match spelling.toList with
  | '!' :: c :: rest => String.ofList (c :: rest)
  | _ => spelling

namespace Entries

/-- Whether a key is bound. -/
def binds (es : Entries) (key : Value) : Bool :=
  es.any fun e => e.1.same key

/-- Binds a key: in its place if it is bound already, else at the end. -/
def insert (es : Entries) (key value : Value) : Entries :=
  match es with
  | [] => [(key, value)]
  | e :: rest => if e.1.same key then (e.1, value) :: rest else e :: Entries.insert rest key value

/-- The value of a key. -/
def get? (es : Entries) (key : Value) : Option Value :=
  (es.find? fun e => e.1.same key).map (·.2)

/-- The mapping that pairs make when they are inserted one after the other. -/
def ofPairs (pairs : List (Value × Value)) : Entries :=
  pairs.foldl (fun es p => es.insert p.1 p.2) []

end Entries

/-- The value without the tags around it. -/
def Value.untagged : Value → Value
  | .tagged _ v => v.untagged
  | v => v

/-- The value that a mapping, possibly under tags, binds to a text. -/
def Value.field? (v : Value) (key : String) : Option Value :=
  match v.untagged with
  | .mapping es => Entries.get? es (.string key)
  | _ => none

end Sidecars.Yaml
