import Sidecars.Yaml.Token.Stream

/-!
# From tokens to events

Events are the structure of a document written down in order: scalars and aliases, and the starts
and ends of collections.  The grammar is a machine whose stack holds what is expected after the
current node; `Event.stream` runs it over the tokens of a text and gives the events up to the
first fault.
-/

namespace Sidecars.Yaml

/-- What an event says. -/
inductive EventKind where
  | streamStart
  | streamEnd
  | documentStart
  | documentEnd
  | alias (anchor : List Char)
  | scalar (anchor : Option (List Char)) (tag : Option Bytes) (text : List Char) (form : ScalarForm)
  | sequenceStart (anchor : Option (List Char)) (tag : Option Bytes)
  | sequenceEnd
  | mappingStart (anchor : Option (List Char)) (tag : Option Bytes)
  | mappingEnd
deriving DecidableEq, Repr

/-- An event and where it begins. -/
structure Event where
  /-- What the event says. -/
  kind : EventKind
  /-- Where it begins. -/
  mark : Mark
deriving DecidableEq, Repr

/-- What the grammar expects.  Collections remember where they began. -/
inductive Expected where
  | streamStart
  /-- A document that need not be announced, or the end. -/
  | implicitDocument
  /-- An announced document or the end. -/
  | document
  | documentContent
  | documentEnd
  | blockNode
  | sequenceEntry (since : Mark)
  | plainSequenceEntry
  | mappingKey (since : Mark)
  | mappingValue (since : Mark)
  | flowSequenceEntry (since : Mark) (first : Bool)
  | flowPairKey (since : Mark)
  | flowPairValue (since : Mark)
  | flowPairEnd (since : Mark)
  | flowMappingKey (since : Mark) (first : Bool)
  | flowMappingValue (since : Mark)
  | flowMappingNoValue (since : Mark)
deriving DecidableEq, Repr

/-- The state of the grammar. -/
structure Grammar where
  /-- The tokens that are left. -/
  tokens : List Token
  /-- What is expected next. -/
  expected : Expected
  /-- What is expected after the node that is being read, the innermost first. -/
  pending : List Expected
  /-- What the handles of tags stand for. -/
  handles : List (List Char × Bytes)
deriving DecidableEq, Repr

namespace Grammar

/-- A step of the grammar: an event, or a fault, or the need for a token that is not there. -/
inductive Step where
  | event (e : Event) (g : Grammar)
  | fault (f : Fault)
  | starved
deriving Repr

/-- The handles that every document knows. -/
def defaultHandles : List (List Char × Bytes) :=
  [(['!'], [0x21]), (['!', '!'], Text.Utf8.encode "tag:yaml.org,2002:")]

/-- With the innermost pending expectation as the next one. -/
def pop (g : Grammar) : Grammar :=
  match g.pending with
  | [] => g
  | e :: rest => { g with expected := e, pending := rest }

/-- With the given tokens left. -/
def leave (g : Grammar) (tokens : List Token) : Grammar := { g with tokens := tokens }

/-- An empty node: a scalar without text. -/
def emptyNode (g : Grammar) (next : Expected) (mark : Mark) : Step :=
  .event ⟨.scalar none none [] .plain, mark⟩ { g with expected := next }

/-- The anchor and the tag in front of a node, in either order, where they begin, and the tokens
behind them. -/
structure Properties where
  /-- The name of the anchor. -/
  anchor : Option (List Char)
  /-- The handle and the suffix of the tag, and its place. -/
  tag : Option (List Char × Bytes × Mark)
  /-- The tokens behind. -/
  rest : List Token

/-- Reads the properties of a node. -/
def properties : List Token → Properties
  | ⟨.anchor a, _⟩ :: ⟨.tag h s, m⟩ :: rest => ⟨some a, some (h, s, m), rest⟩
  | ⟨.anchor a, _⟩ :: rest => ⟨some a, none, rest⟩
  | ⟨.tag h s, m⟩ :: ⟨.anchor a, _⟩ :: rest => ⟨some a, some (h, s, m), rest⟩
  | ⟨.tag h s, m⟩ :: rest => ⟨none, some (h, s, m), rest⟩
  | rest => ⟨none, none, rest⟩

/-- The tag that a handle and a suffix stand for. -/
def resolve (g : Grammar) (since : Mark) :
    Option (List Char × Bytes × Mark) → Except Fault (Option Bytes)
  | none => .ok none
  | some (handle, suffix, mark) =>
    if handle = [] then .ok (some suffix)
    else match g.handles.find? (·.1 = handle) with
      | some (_, expansion) => .ok (some (expansion ++ suffix))
      | none => .error (.during .node since .unknownTagHandle mark)

/-- Reads a node, or its start if it is a collection.  `block` allows block collections,
`entries` a sequence that is not indented. -/
def node (g : Grammar) (block entries : Bool) : Step :=
  match g.tokens with
  | [] => .starved
  | ⟨.alias name, mark⟩ :: rest => .event ⟨.alias name, mark⟩ (g.leave rest).pop
  | first :: _ =>
    let p := properties g.tokens
    match p.rest with
    | [] => .starved
    | t :: rest =>
      match g.resolve first.mark p.tag with
      | .error f => .fault f
      | .ok tag =>
        let collection (kind : EventKind) (expected : Expected) (tokens : List Token) : Step :=
          .event ⟨kind, first.mark⟩ { g with expected := expected, tokens := tokens }
        match t.kind, block, entries with
        | .blockEntry, _, true =>
          collection (.sequenceStart p.anchor tag) .plainSequenceEntry p.rest
        | .scalar text form, _, _ =>
          .event ⟨.scalar p.anchor tag text form, first.mark⟩ (g.leave rest).pop
        | .flowSequenceStart, _, _ =>
          collection (.sequenceStart p.anchor tag) (.flowSequenceEntry t.mark true) rest
        | .flowMappingStart, _, _ =>
          collection (.mappingStart p.anchor tag) (.flowMappingKey t.mark true) rest
        | .blockSequenceStart, true, _ =>
          collection (.sequenceStart p.anchor tag) (.sequenceEntry t.mark) rest
        | .blockMappingStart, true, _ =>
          collection (.mappingStart p.anchor tag) (.mappingKey t.mark) rest
        | _, _, _ =>
          if p.anchor.isSome ∨ tag.isSome then
            .event ⟨.scalar p.anchor tag [] .plain, first.mark⟩ (g.leave p.rest).pop
          else
            .fault (.during (if block then .blockNode else .flowNode) first.mark .noNode t.mark)

/-- Reads a node after which `next` is expected. -/
def nodeThen (g : Grammar) (next : Expected) (block entries : Bool) : Step :=
  { g with pending := next :: g.pending }.node block entries

/-- Reads the directives in front of a document: the tag handles, and whether there was a version
directive. -/
def directives (handles : List (List Char × Bytes)) (version : Bool) :
    List Token → Except Fault (List (List Char × Bytes) × List Token)
  | ⟨.versionDirective major minor, mark⟩ :: rest =>
    if version then .error ⟨.duplicateVersion, mark, none⟩
    else if major ≠ 1 ∨ (minor ≠ 1 ∧ minor ≠ 2) then .error ⟨.badVersion, mark, none⟩
    else directives handles true rest
  | ⟨.tagDirective handle expansion, mark⟩ :: rest =>
    if handles.any (·.1 = handle) then .error ⟨.duplicateTagHandle, mark, none⟩
    else directives (handles ++ [(handle, expansion)]) version rest
  | rest => .ok (handles, rest)

/-- The handles of a document with those that every document knows. -/
def withDefaults (handles : List (List Char × Bytes)) : List (List Char × Bytes) :=
  handles ++ defaultHandles.filter fun d => !handles.any (·.1 = d.1)

/-- Reads the start of an announced document, or the end of the text. -/
def announced (g : Grammar) : Step :=
  match g.tokens with
  | [] => .starved
  | ⟨.streamEnd, mark⟩ :: _ => .event ⟨.streamEnd, mark⟩ (g.leave [])
  | first :: _ =>
    match directives [] false g.tokens with
    | .error f => .fault f
    | .ok (_, []) => .starved
    | .ok (handles, ⟨.documentStart, _⟩ :: rest) =>
      .event ⟨.documentStart, first.mark⟩
        { g with
          tokens := rest, expected := .documentContent, pending := .documentEnd :: g.pending,
          handles := withDefaults handles }
    | .ok (_, t :: _) => .fault ⟨.noDocumentStart, t.mark, none⟩

/-- One event. -/
def step (g : Grammar) : Step :=
  match g.tokens with
  | [] => .starved
  | t :: rest =>
    match g.expected with
    | .streamStart =>
      .event ⟨.streamStart, t.mark⟩ { g with tokens := rest, expected := .implicitDocument }
    | .implicitDocument =>
      match t.kind with
      | .versionDirective _ _ | .tagDirective _ _ | .documentStart | .streamEnd => g.announced
      | _ =>
        .event ⟨.documentStart, t.mark⟩
          { g with
            expected := .blockNode, pending := .documentEnd :: g.pending,
            handles := defaultHandles }
    | .document =>
      { g with tokens := g.tokens.dropWhile (·.kind = TokenKind.documentEnd) }.announced
    | .documentContent =>
      match t.kind with
      | .versionDirective _ _ | .tagDirective _ _ | .documentStart | .documentEnd | .streamEnd =>
        .event ⟨.scalar none none [] .plain, t.mark⟩ g.pop
      | _ => g.node true false
    | .documentEnd =>
      .event ⟨.documentEnd, t.mark⟩
        { g with
          tokens := if t.kind = .documentEnd then rest else g.tokens, expected := .document,
          handles := [] }
    | .blockNode => g.node true false
    | .sequenceEntry since =>
      match t.kind with
      | .blockEntry =>
        match rest with
        | [] => .starved
        | next :: _ =>
          match next.kind with
          | .blockEntry | .blockEnd => (g.leave rest).emptyNode (.sequenceEntry since) next.mark
          | _ => (g.leave rest).nodeThen (.sequenceEntry since) true false
      | .blockEnd => .event ⟨.sequenceEnd, t.mark⟩ (g.leave rest).pop
      | _ => .fault (.during .blockCollection since .noEntry t.mark)
    | .plainSequenceEntry =>
      match t.kind with
      | .blockEntry =>
        match rest with
        | [] => .starved
        | next :: _ =>
          match next.kind with
          | .blockEntry | .key | .value | .blockEnd =>
            (g.leave rest).emptyNode .plainSequenceEntry next.mark
          | _ => (g.leave rest).nodeThen .plainSequenceEntry true false
      | _ => .event ⟨.sequenceEnd, t.mark⟩ g.pop
    | .mappingKey since =>
      match t.kind with
      | .key =>
        match rest with
        | [] => .starved
        | next :: _ =>
          match next.kind with
          | .key | .value | .blockEnd => (g.leave rest).emptyNode (.mappingValue since) next.mark
          | _ => (g.leave rest).nodeThen (.mappingValue since) true true
      | .blockEnd => .event ⟨.mappingEnd, t.mark⟩ (g.leave rest).pop
      | _ => .fault (.during .blockMapping since .noKey t.mark)
    | .mappingValue since =>
      match t.kind with
      | .value =>
        match rest with
        | [] => .starved
        | next :: _ =>
          match next.kind with
          | .key | .value | .blockEnd => (g.leave rest).emptyNode (.mappingKey since) next.mark
          | _ => (g.leave rest).nodeThen (.mappingKey since) true true
      | _ => g.emptyNode (.mappingKey since) t.mark
    | .flowSequenceEntry since first =>
      let tokens := if !first && t.kind = .flowEntry then rest else g.tokens
      if t.kind ≠ .flowSequenceEnd ∧ !first ∧ t.kind ≠ .flowEntry then
        .fault (.during .flowSequence since .noSequenceEnd t.mark)
      else match tokens with
        | [] => .starved
        | next :: after =>
          match next.kind with
          | .key =>
            .event ⟨.mappingStart none none, next.mark⟩
              { g with tokens := after, expected := .flowPairKey since }
          | .flowSequenceEnd => .event ⟨.sequenceEnd, next.mark⟩ (g.leave after).pop
          | _ => (g.leave tokens).nodeThen (.flowSequenceEntry since false) false false
    | .flowPairKey since =>
      match t.kind with
      | .value | .flowEntry | .flowSequenceEnd =>
        (g.leave rest).emptyNode (.flowPairValue since) t.mark
      | _ => g.nodeThen (.flowPairValue since) false false
    | .flowPairValue since =>
      match t.kind with
      | .value =>
        match rest with
        | [] => .starved
        | next :: _ =>
          match next.kind with
          | .flowEntry | .flowSequenceEnd => (g.leave rest).emptyNode (.flowPairEnd since) next.mark
          | _ => (g.leave rest).nodeThen (.flowPairEnd since) false false
      | _ => g.emptyNode (.flowPairEnd since) t.mark
    | .flowPairEnd since =>
      .event ⟨.mappingEnd, t.mark⟩ { g with expected := .flowSequenceEntry since false }
    | .flowMappingKey since first =>
      let tokens := if !first && t.kind = .flowEntry then rest else g.tokens
      if t.kind ≠ .flowMappingEnd ∧ !first ∧ t.kind ≠ .flowEntry then
        .fault (.during .flowMapping since .noMappingEnd t.mark)
      else match tokens with
        | [] => .starved
        | next :: after =>
          match next.kind with
          | .key =>
            match after with
            | [] => .starved
            | k :: _ =>
              match k.kind with
              | .value | .flowEntry | .flowMappingEnd =>
                (g.leave after).emptyNode (.flowMappingValue since) k.mark
              | _ => (g.leave after).nodeThen (.flowMappingValue since) false false
          | .flowMappingEnd => .event ⟨.mappingEnd, next.mark⟩ (g.leave after).pop
          | _ => (g.leave tokens).nodeThen (.flowMappingNoValue since) false false
    | .flowMappingValue since =>
      match t.kind with
      | .value =>
        match rest with
        | [] => .starved
        | next :: _ =>
          match next.kind with
          | .flowEntry | .flowMappingEnd =>
            (g.leave rest).emptyNode (.flowMappingKey since false) next.mark
          | _ => (g.leave rest).nodeThen (.flowMappingKey since false) false false
      | _ => g.emptyNode (.flowMappingKey since false) t.mark
    | .flowMappingNoValue since => g.emptyNode (.flowMappingKey since false) t.mark

/-- All events up to the first fault.  Where the tokens run out, the fault is the one that ended
them. -/
def run (ended : Option Fault) : Nat → Grammar → List Event × Option Fault
  | 0, _ => ([], ended)
  | fuel + 1, g =>
    match g.step with
    | .event e g =>
      if e.kind = .streamEnd then ([e], none)
      else
        let (es, f) := run ended fuel g
        (e :: es, f)
    | .fault f => ([], some f)
    | .starved => ([], ended)

end Grammar

/-- The events of a text up to its first fault, and that fault. -/
def Event.stream (text : List Char) : List Event × Option Fault :=
  let (tokens, ended) := Token.stream text
  Grammar.run ended (4 * tokens.length + 8) ⟨tokens, .streamStart, [], []⟩

end Sidecars.Yaml
