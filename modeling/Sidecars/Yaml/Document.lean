import Sidecars.Yaml.Event
import Sidecars.Yaml.Written

/-!
# From events to values

A text holds one document.  Its events are gathered up to the first fault, with the anchors that
aliases refer to; then the value is built from them, so that an error in the value of what was
gathered comes before the fault.

Values nest at most 128 deep.  An alias repeats the events of its anchor, and the number of
repetitions is limited by the size of the document.
-/

namespace Sidecars.Yaml

/-- Why an event has no value. -/
inductive Misfit where
  /-- A key that is there already. -/
  | duplicateKey (key : Value)
  /-- A text where the tag asks for something else. -/
  | unexpectedText (text : String) (wanted : String)
  /-- An integer that no value can hold. -/
  | wideInteger (n : Int)
deriving Repr

/-- One step from the top of a document to a value in it. -/
inductive Step where
  /-- Into the value of a key that is a scalar. -/
  | key (text : String)
  /-- Into the value of any other key. -/
  | unknown
  /-- Into an item. -/
  | index (n : Nat)
deriving DecidableEq, Repr

/-- Why a text cannot be read. -/
inductive ReadError where
  /-- The syntax is wrong. -/
  | fault (f : Fault)
  /-- An alias without an anchor before it. -/
  | unknownAnchor (mark : Mark)
  /-- Values nest too deep. -/
  | tooDeep (mark : Mark)
  /-- Aliases repeat too much. -/
  | tooManyRepetitions
  /-- There is more than one document. -/
  | manyDocuments
  /-- The document ends where a value is expected. -/
  | noValue
  /-- An event has no value; the steps to it, the last one first. -/
  | misfit (cause : Misfit) (path : List Step) (mark : Mark)
deriving Repr

/-- A number as messages show it. -/
def Value.keyText : Value → String
  | .null => "with null key"
  | .bool b => "with key \x60" ++ (if b then "true" else "false") ++ "\x60"
  | .int n => "with key " ++ toString n
  | .float x => "with key " ++ String.ofList (floatText x)
  | .string s => "with key " ++ Text.Escaped.quoteText s
  | _ => "in YAML map"

/-- The wording of a misfit. -/
def Misfit.message : Misfit → String
  | .duplicateKey key => "duplicate entry " ++ key.keyText
  | .unexpectedText text wanted =>
    "invalid value: string " ++ Text.Escaped.quoteText text ++ ", expected " ++ wanted
  | .wideInteger n =>
    "invalid type: integer \x60" ++ toString n ++ "\x60 as " ++ (if n < 0 then "i128" else "u128")
      ++ ", expected any YAML value"

/-- The steps to a value, the last one first, in words: keys with dots between them, items by
number. -/
def pathText : List Step → String
  | [] => "."
  | .index n :: parent => pathText parent ++ s!"[{n}]"
  | .key text :: parent => before parent ++ text
  | .unknown :: parent => before parent ++ "?"
where
  /-- What stands before a key. -/
  before (parent : List Step) : String := if parent = [] then "" else pathText parent ++ "."

/-- The wording of an error. -/
def ReadError.message : ReadError → String
  | .fault f => f.message
  | .unknownAnchor mark => "unknown anchor" ++ mark.suffix
  | .tooDeep mark => "recursion limit exceeded" ++ mark.suffix
  | .tooManyRepetitions => "repetition limit exceeded"
  | .manyDocuments => "deserializing from YAML containing more than one document is not supported"
  | .noValue => "EOF while parsing a value"
  | .misfit cause path mark =>
    (if path = [] then "" else pathText path ++ ": ") ++ cause.message ++ mark.suffix

/-! ## Gathering -/

/-- An event of a document, with aliases and anchors by number. -/
inductive ItemKind where
  | alias (anchor : Nat)
  | scalar (tag : Option Bytes) (text : String) (form : ScalarForm)
  | sequenceStart (tag : Option Bytes)
  | sequenceEnd
  | mappingStart (tag : Option Bytes)
  | mappingEnd
  /-- All that an empty text holds. -/
  | void
deriving DecidableEq, Repr

/-- An item and where it begins. -/
structure Item where
  /-- What the item is. -/
  kind : ItemKind
  /-- Where it begins. -/
  mark : Mark
deriving DecidableEq, Repr

/-- A document as it is being gathered. -/
structure Gathered where
  /-- The items, in order. -/
  items : List Item
  /-- For the number of an anchor, how many items precede it; later entries count. -/
  anchors : List (Nat × Nat)
  /-- The numbers of the anchors' names; later entries count. -/
  names : List (List Char × Nat)
  /-- Why the document ends early. -/
  error : Option ReadError
deriving Repr

namespace Gathered

/-- Nothing gathered. -/
def empty : Gathered := ⟨[], [], [], none⟩

/-- How many different names of anchors there are. -/
def nameCount (g : Gathered) : Nat := (g.names.map (·.1)).eraseDups.length

/-- With one more item. -/
def push (g : Gathered) (kind : ItemKind) (mark : Mark) : Gathered :=
  { g with items := g.items ++ [⟨kind, mark⟩] }

/-- With an anchor at the next item.  Its number is the number of names before it. -/
def anchor (g : Gathered) : Option (List Char) → Gathered
  | none => g
  | some name =>
    { g with
      names := (name, g.nameCount) :: g.names
      anchors := (g.nameCount, g.items.length) :: g.anchors }

/-- Gathers the events of one document.  The result has the events behind it; none are left when
the text ended before a document began. -/
def document (first : Bool) (ended : Option Fault) (g : Gathered) :
    List Event → Option (Gathered × List Event)
  | [] =>
    match ended with
    | some f => some ({ g with error := some (.fault f) }, [])
    | none => if first then some (g, []) else none
  | e :: es =>
    match e.kind with
    | .streamStart | .documentStart => document first ended g es
    | .streamEnd =>
      if first then some (if g.items = [] then g.push .void e.mark else g, []) else none
    | .documentEnd => some (g, es)
    | .alias name =>
      match g.names.find? (·.1 = name) with
      | some (_, n) => document first ended (g.push (.alias n) e.mark) es
      | none => some ({ g with error := some (.unknownAnchor e.mark) }, [])
    | .scalar a tag text form =>
      document first ended ((g.anchor a).push (.scalar tag (String.ofList text) form) e.mark) es
    | .sequenceStart a tag => document first ended ((g.anchor a).push (.sequenceStart tag) e.mark) es
    | .sequenceEnd => document first ended (g.push .sequenceEnd e.mark) es
    | .mappingStart a tag => document first ended ((g.anchor a).push (.mappingStart tag) e.mark) es
    | .mappingEnd => document first ended (g.push .mappingEnd e.mark) es

end Gathered

/-! ## Building -/

/-- The name in a tag of the application: a tag that starts with an exclamation mark. -/
def applicationTag? : Option Bytes → Option String
  | some [0x21] => some "!"
  | some (0x21 :: rest) => Text.Utf8.decode? rest
  | _ => none

/-- A tag of the core schema. -/
def coreTag (name : String) : Option Bytes := some (Text.Utf8.encode ("tag:yaml.org,2002:" ++ name))

/-- The value of an unquoted text. -/
def plainValue (text : String) : Except Misfit Value :=
  match Scalar.meaning text with
  | .null => .ok .null
  | .bool b => .ok (.bool b)
  | .int n => .ok (.int n)
  | .wide n => .error (.wideInteger n)
  | .float x => .ok (.float x)
  | .text => .ok (.string text)

/-- The value of a scalar.  `known` says that its tag has been dealt with. -/
def scalarValue (known : Bool) (tag : Option Bytes) (text : String) (form : ScalarForm) :
    Except Misfit Value :=
  let untagged := if form = .plain then plainValue text else .ok (.string text)
  if known ∨ tag = none then untagged
  else if tag = coreTag "bool" then
    match Scalar.bool? text with
    | some b => .ok (.bool b)
    | none => .error (.unexpectedText text "a boolean")
  else if tag = coreTag "int" then
    match Scalar.integer? text.toList with
    | some (.int n) => .ok (.int n)
    | some (.wide n) => .error (.wideInteger n)
    | _ => .error (.unexpectedText text "an integer")
  else if tag = coreTag "float" then
    match Scalar.float? text.toList with
    | some x => .ok (.float x)
    | none => .error (.unexpectedText text "a float")
  else if tag = coreTag "null" then
    if Scalar.isNullWord text then .ok .null else .error (.unexpectedText text "null")
  else if tag.any (·.head? = some 0x21) then untagged
  else .ok (.string text)

/-- The state of building a value: the items that are left, and how often an alias was followed. -/
structure Building where
  /-- The items that are left. -/
  rest : List Item
  /-- How often an alias was followed. -/
  repeats : Nat
deriving Repr

/-- The value that the next items make, and what is left behind them.

`depth` is how much deeper values may nest, `path` leads to the value, `known` says that the tag
of the first item has been dealt with.  `fuel` bounds the steps. -/
def buildValue (doc : Gathered) :
    Nat → (depth : Nat) → (path : List Step) → (known : Bool) → Building →
      Except ReadError (Value × Building)
  | 0, _, _, _, _ => .error .noValue
  | fuel + 1, depth, path, known, b =>
    match b.rest with
    | [] => .error (doc.error.getD .noValue)
    | item :: rest =>
      let named (tag : Option Bytes) : Option String := if known then none else applicationTag? tag
      let underTag (name : String) : Except ReadError (Value × Building) := do
        let (v, b) ← buildValue doc fuel depth path true b
        return (.tagged name v, b)
      match item.kind with
      | .alias n =>
        if b.repeats + 1 > doc.items.length * 100 then .error .tooManyRepetitions
        else
          let target := ((doc.anchors.find? (·.1 = n)).map (·.2)).getD 0
          do
            let (v, inner) ← buildValue doc fuel depth path false
              ⟨doc.items.drop target, b.repeats + 1⟩
            return (v, ⟨rest, inner.repeats⟩)
      | .scalar tag text form =>
        match named tag with
        | some name => underTag name
        | none =>
          match scalarValue known tag text form with
          | .ok v => .ok (v, { b with rest := rest })
          | .error cause => .error (.misfit cause path item.mark)
      | .sequenceStart tag =>
        match named tag with
        | some name => underTag name
        | none =>
          if depth = 0 then .error (.tooDeep item.mark)
          else do
            let (items, b) ← sequenceItems fuel (depth - 1) path 0 { b with rest := rest }
            return (.sequence items, b)
      | .mappingStart tag =>
        match named tag with
        | some name => underTag name
        | none =>
          if depth = 0 then .error (.tooDeep item.mark)
          else do
            let (entries, b) ←
              mappingEntries fuel (depth - 1) path item.mark [] { b with rest := rest }
            return (.mapping entries, b)
      | .sequenceEnd | .mappingEnd => .error .noValue
      | .void => .ok (.null, { b with rest := rest })
where
  /-- The items of a sequence from the given index, up to its end. -/
  sequenceItems : Nat → Nat → List Step → Nat → Building →
      Except ReadError (List Value × Building)
    | 0, _, _, _, _ => .error .noValue
    | fuel + 1, depth, path, index, b =>
      match b.rest with
      | [] => .error (doc.error.getD .noValue)
      | item :: rest =>
        if item.kind = .sequenceEnd then .ok ([], { b with rest := rest })
        else do
          let (v, b) ← buildValue doc fuel depth (.index index :: path) false b
          let (vs, b) ← sequenceItems fuel depth path (index + 1) b
          return (v :: vs, b)
  /-- The pairs of a mapping after those read so far, up to its end. -/
  mappingEntries : Nat → Nat → List Step → Mark → Entries → Building →
      Except ReadError (Entries × Building)
    | 0, _, _, _, _, _ => .error .noValue
    | fuel + 1, depth, path, mark, entries, b =>
      match b.rest with
      | [] => .error (doc.error.getD .noValue)
      | item :: rest =>
        if item.kind = .mappingEnd then .ok (entries, { b with rest := rest })
        else do
          let (k, b) ← buildValue doc fuel depth path false b
          if entries.binds k then throw (.misfit (.duplicateKey k) path mark)
          let step := match item.kind with
            | .scalar _ text _ => Step.key text
            | _ => Step.unknown
          let (v, b) ← buildValue doc fuel depth (step :: path) false b
          mappingEntries fuel depth path mark (entries ++ [(k, v)]) b

/-- How deep values may nest. -/
def depthLimit : Nat := 128

/-- The value of the only document of a text. -/
def read (text : List Char) : Except ReadError Value :=
  let (events, ended) := Event.stream text
  match Gathered.document true ended .empty events with
  | none => .error .noValue
  | some (doc, rest) => do
    let (v, _) ← buildValue doc ((depthLimit + 4) * (doc.items.length + 4)) depthLimit [] false
      ⟨doc.items, 0⟩
    match doc.error with
    | some e => throw e
    | none =>
      match Gathered.document false ended .empty rest with
      | some _ => throw .manyDocuments
      | none => return v

end Sidecars.Yaml
