import Sidecars.Yaml.Value
import Sidecars.Yaml.Quoting
import Sidecars.Number.Shortest

/-!
# The written form of a document

Values in block style: a pair a line, nested values indented by two more columns, the items of a
sequence inside a mapping not indented.  Only empty collections are written between brackets.

The text of a node always ends its line, so the text of a collection is the concatenation of the
texts of its members.

* `Value.written` is the text of a node behind the indicator that introduces it;
* `render` writes a mapping as a document, or says why it cannot.
-/

namespace Sidecars.Yaml

/-- Why a value cannot be written. -/
inductive WriteError where
  /-- A tag directly inside a tag. -/
  | nestedTags
  /-- A mapping of one pair whose key is itself a mapping of one pair or has a tag: its start is
  taken for that of its key, and its end is one too many. -/
  | unbalanced
deriving DecidableEq, Repr

/-- The wording of an error. -/
def WriteError.message : WriteError → String
  | .nestedTags => "serializing nested enums in YAML is not supported yet"
  | .unbalanced => "expected SCALAR, SEQUENCE-START, MAPPING-START, or ALIAS"

/-! ## Numbers -/

/-- A finite number in decimal: positional with a point while it has at most sixteen digits before
the point and at most four zeros after it, else with an exponent. -/
def finiteText (x : Binary64) : List Char :=
  let sign := if x.isNegative then ['-'] else []
  if x.isZero then sign ++ ['0', '.', '0']
  else
    let (digits, power) := Shortest.decimal x
    let text := (Nat.repr digits).toList
    let size : Int := text.length
    let point := size + power
    sign ++
      if 0 ≤ power ∧ point ≤ 16 then
        text ++ List.replicate power.toNat '0' ++ ['.', '0']
      else if 0 < point ∧ point ≤ 16 then
        text.take point.toNat ++ '.' :: text.drop point.toNat
      else if -5 < point ∧ point ≤ 0 then
        '0' :: '.' :: List.replicate (-point).toNat '0' ++ text
      else
        let exponent := 'e' :: (toString (point - 1)).toList
        if text.length ≤ 1 then text ++ exponent
        else text.take 1 ++ '.' :: text.drop 1 ++ exponent

/-- A floating-point number. -/
def floatText (x : Binary64) : List Char :=
  if x.isNaN then ['.', 'n', 'a', 'n']
  else if x.isInfinite then
    (if x.isNegative then ['-'] else []) ++ ['.', 'i', 'n', 'f']
  else finiteText x

/-! ## Tags -/

/-- Whether a byte may stand in a tag as it is. -/
def isTagByte (b : UInt8) : Bool :=
  let c := Char.ofNat b.toNat
  b < 0x80 && (isWord c || [';', '/', '?', ':', '@', '&', '=', '+', '$', ',', '.', '~', '*',
    '\'', '(', ')', '[', ']'].contains c)

/-- A byte of a tag: escaped with a percent sign where necessary. -/
def tagByte (b : UInt8) : List Char :=
  if isTagByte b then [Char.ofNat b.toNat] else '%' :: Quoting.hex 2 b.toNat

/-- The name of a tag without a further exclamation mark in front. -/
def tagSuffix (name : String) : List Char :=
  match name.toList with
  | '!' :: rest => rest
  | cs => cs

/-- A tag. -/
def tagText (name : String) : List Char :=
  match tagSuffix name with
  | [] => "!<%21>".toList
  | suffix => '!' :: (Text.Utf8.encodeChars suffix).flatMap tagByte

/-- How much a tag adds to the length of a key. -/
def tagLength (name : String) : Nat :=
  1 + (Text.Utf8.encodeChars (tagSuffix name)).length

/-! ## Nodes -/

/-- The text of a scalar and the style it asks for; none for a collection or a tagged value. -/
def Value.scalar? : Value → Option (List Char × Style)
  | .null => some (['n', 'u', 'l', 'l'], .plain)
  | .bool true => some (['t', 'r', 'u', 'e'], .plain)
  | .bool false => some (['f', 'a', 'l', 's', 'e'], .plain)
  | .int n => some ((toString n).toList, .plain)
  | .float x => some (floatText x, .plain)
  | .string s => some (s.toList, Style.wish s)
  | _ => none

/-- The text of a value that can stand in front of a colon, and its length. -/
def Value.key? : Value → Option (List Char × Nat)
  | .sequence [] => some (['[', ']'], 0)
  | .mapping [] => some (['{', '}'], 0)
  | .tagged tag v =>
    match v with
    | .tagged _ _ => none
    | .sequence [] => some (tagText tag ++ [' ', '[', ']'], tagLength tag)
    | .mapping [] => some (tagText tag ++ [' ', '{', '}'], tagLength tag)
    | v =>
      v.scalar?.bind fun (s, wished) =>
        if s.any isBreak then none
        else some (tagText tag ++ ' ' :: Quoting.write (Style.choose wished true s) 0 s,
          tagLength tag + (Text.Utf8.encodeChars s).length)
  | v =>
    v.scalar?.bind fun (s, wished) =>
      if s.any isBreak then none
      else some (Quoting.write (Style.choose wished true s) 0 s, (Text.Utf8.encodeChars s).length)

/-- The text of a short key on one line. -/
def Value.simpleKey? (v : Value) : Option (List Char) :=
  v.key?.bind fun (text, length) => if length ≤ 128 then some text else none

/-- The text of a scalar node behind its indicator. -/
def scalarLine (indent : Nat) (s : List Char) (wished : Style) : List Char :=
  ' ' :: Quoting.endLine (Quoting.write (Style.choose wished false s) (indent + 2) s)

/-- Where a node stands. -/
structure Place where
  /-- The column of the collection that holds the node. -/
  indent : Nat
  /-- Whether that collection is a mapping. -/
  inMapping : Bool
  /-- Whether a collection may start on the line of its indicator. -/
  compact : Bool
deriving DecidableEq, Repr

/-- The place behind a tag. -/
def Place.afterTag (p : Place) : Place := { p with compact := false }

/-- The column of a mapping at a place. -/
def Place.mappingIndent (p : Place) : Nat := p.indent + 2

/-- The column of a sequence at a place. -/
def Place.sequenceIndent (p : Place) : Nat :=
  if p.inMapping && !p.compact then p.indent else p.indent + 2

/-- What stands between an indicator and the first member of a collection in column `indent`. -/
def Place.lead (p : Place) (indent : Nat) : List Char :=
  if p.compact then [' '] else '\n' :: spaces indent

mutual

/-- The text of a node behind its indicator, up to the end of its last line. -/
def Value.written (p : Place) : Value → List Char
  | .sequence [] => [' ', '[', ']', '\n']
  | .sequence (x :: xs) => writtenItems p.sequenceIndent (p.lead p.sequenceIndent) (x :: xs)
  | .mapping [] => [' ', '{', '}', '\n']
  | .mapping (e :: es) => writtenEntries p.mappingIndent (p.lead p.mappingIndent) (e :: es)
  | .tagged tag v => ' ' :: tagText tag ++ Value.written p.afterTag v
  | .null => scalarLine p.indent ['n', 'u', 'l', 'l'] .plain
  | .bool true => scalarLine p.indent ['t', 'r', 'u', 'e'] .plain
  | .bool false => scalarLine p.indent ['f', 'a', 'l', 's', 'e'] .plain
  | .int n => scalarLine p.indent (toString n).toList .plain
  | .float x => scalarLine p.indent (floatText x) .plain
  | .string s => scalarLine p.indent s.toList (Style.wish s)

/-- The items of a sequence in column `indent`; `lead` stands before the first. -/
def writtenItems (indent : Nat) (lead : List Char) : List Value → List Char
  | [] => []
  | x :: xs =>
    lead ++ '-' :: Value.written ⟨indent, false, true⟩ x ++ writtenItems indent (spaces indent) xs

/-- The pairs of a mapping in column `indent`; `lead` stands before the first. -/
def writtenEntries (indent : Nat) (lead : List Char) : List (Value × Value) → List Char
  | [] => []
  | (k, v) :: es =>
    (match k.simpleKey? with
      | some text => lead ++ text ++ ':' :: Value.written ⟨indent, true, false⟩ v
      | none =>
        lead ++ '?' :: Value.written ⟨indent, true, true⟩ k
          ++ spaces indent ++ ':' :: Value.written ⟨indent, true, true⟩ v)
      ++ writtenEntries indent (spaces indent) es

end

/-! ## Documents -/

/-- Whether a mapping's start is taken for that of its only key. -/
def losesStart : List (Value × Value) → Bool
  | [(.mapping [_], _)] => true
  | [(.tagged _ _, _)] => true
  | _ => false

mutual

/-- Checks that a value can be written.  The result says whether an end is left over, which is an
error as soon as a node is expected in its place. -/
def Value.audit (underTag : Bool) : Value → Except WriteError Bool
  | .sequence xs => auditItems xs
  | .mapping es => do
    let pending ← auditEntries es
    return pending || (!underTag && losesStart es)
  | .tagged _ v => do
    if v matches .tagged _ _ then throw .nestedTags
    Value.audit true v
  | _ => return false

/-- Checks the items of a sequence. -/
def auditItems : List Value → Except WriteError Bool
  | [] => return false
  | x :: xs => do
    if ← Value.audit false x then throw .unbalanced
    auditItems xs

/-- Checks the pairs of a mapping. -/
def auditEntries : List (Value × Value) → Except WriteError Bool
  | [] => return false
  | (k, v) :: es => do
    let pending ← Value.audit false k
    if ← Value.audit false v then throw .unbalanced
    return (← auditEntries es) || pending

end

/-- A mapping as a document. -/
def render (es : Entries) : Except WriteError (List Char) := do
  if ← Value.audit false (.mapping es) then throw .unbalanced
  return match es with
    | [] => ['{', '}', '\n']
    | es => writtenEntries 0 [] es

end Sidecars.Yaml
