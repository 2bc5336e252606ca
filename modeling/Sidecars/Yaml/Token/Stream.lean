import Sidecars.Yaml.Token.Lexeme

/-!
# From text to tokens

A scalar can turn out to be a key only when the colon behind it is reached.  So tokens wait in a
queue, and every flow level remembers the token at which a key may have begun; when the colon
comes, the key token, and the start of the mapping if one begins here, are put in front of it.
Indentation is a stack of columns: a deeper column opens a collection, a lesser one closes those
that are deeper.

`Token.stream` is the list of all tokens up to the first fault.  A fault hides the tokens that are
still waiting in the queue.
-/

namespace Sidecars.Yaml

/-- A place at which a key may have begun. -/
structure KeyCandidate where
  /-- Whether nothing but a key can stand there. -/
  required : Bool
  /-- The number of the token that begins there, counted from the start of the text. -/
  number : Nat
  /-- The place itself. -/
  mark : Mark
deriving DecidableEq, Repr

/-- The state of cutting a text into tokens. -/
structure Scan where
  /-- What is left of the text. -/
  cursor : Cursor
  /-- The tokens that wait. -/
  queue : List Token
  /-- How many tokens have left the queue. -/
  taken : Nat
  /-- The columns of the open block collections, the innermost first. -/
  columns : List Nat
  /-- Where a key may have begun, for the innermost flow level. -/
  candidate : Option KeyCandidate
  /-- The same for the levels around it, the innermost first; their number is the flow level. -/
  outer : List (Option KeyCandidate)
  /-- Whether a key may begin at the next token. -/
  keyAllowed : Bool
deriving DecidableEq, Repr

namespace Scan

/-- At the start of a text, with the token for it in the queue. -/
def start (text : List Char) : Scan where
  cursor := ⟨text, .start⟩
  queue := [⟨.streamStart, .start⟩]
  taken := 0
  columns := []
  candidate := none
  outer := []
  keyAllowed := true

/-- The place of the next character. -/
def mark (s : Scan) : Mark := s.cursor.mark

/-- Whether the text is inside brackets. -/
def inFlow (s : Scan) : Bool := s.outer ≠ []

/-- With one more token at the end of the queue. -/
def emit (s : Scan) (kind : TokenKind) (mark : Mark) : Scan :=
  { s with queue := s.queue ++ [⟨kind, mark⟩] }

/-- With tokens put into the queue in front of the token of the given number. -/
def insert (s : Scan) (number : Nat) (tokens : List Token) : Scan :=
  let n := number - s.taken
  { s with queue := s.queue.take n ++ tokens ++ s.queue.drop n }

/-- Whether the text at the given mark is too far behind a candidate for it to be a key: on
another line, or more than 1024 characters away. -/
def KeyCandidate.isStale (k : KeyCandidate) (mark : Mark) : Bool :=
  k.mark.line < mark.line || k.mark.index + 1024 < mark.index

/-- The fault of a required key that is none. -/
def missingColon (k : KeyCandidate) (mark : Mark) : Fault :=
  .during .simpleKey k.mark .noColon mark

/-- Drops a candidate that is stale. -/
def freshen (mark : Mark) : Option KeyCandidate → Except Fault (Option KeyCandidate)
  | none => .ok none
  | some k =>
    if KeyCandidate.isStale k mark then
      if k.required then .error (missingColon k mark) else .ok none
    else .ok (some k)

/-- Drops the candidates that are stale, the outermost level first. -/
def dropStale (s : Scan) : Except Fault Scan := do
  let outer ← s.outer.reverse.mapM (freshen s.mark)
  let candidate ← freshen s.mark s.candidate
  return { s with outer := outer.reverse, candidate := candidate }

/-- Drops the candidate of the innermost level. -/
def dropCandidate (s : Scan) : Except Fault Scan :=
  match s.candidate with
  | some k => if k.required then .error (missingColon k s.mark) else .ok { s with candidate := none }
  | none => .ok s

/-- Notes that a key may begin here. -/
def noteCandidate (s : Scan) : Except Fault Scan :=
  if s.keyAllowed then do
    let required := !s.inFlow && s.columns.head? = some s.mark.column
    let number := s.taken + s.queue.length
    let mark := s.mark
    let s ← s.dropCandidate
    return { s with candidate := some ⟨required, number, mark⟩ }
  else .ok s

/-- Whether a column is deeper than the innermost block collection. -/
def isDeeper (s : Scan) (column : Nat) : Bool :=
  match s.columns with
  | [] => true
  | n :: _ => n < column

/-- Opens a block collection in the given column, unless one is open there. -/
def openBlock (s : Scan) (column : Nat) (kind : TokenKind) (mark : Mark) : Scan :=
  if !s.inFlow && s.isDeeper column then
    { s.emit kind mark with columns := column :: s.columns }
  else s

/-- Closes the block collections that are deeper than a column; without a column, all. -/
def closeBlocks (s : Scan) (column : Option Nat) : Scan :=
  if s.inFlow then s
  else
    let isClosed (n : Nat) : Bool := column.all (· < n)
    let closed := s.columns.takeWhile isClosed
    { s with
      queue := s.queue ++ closed.map fun _ => ⟨.blockEnd, s.mark⟩
      columns := s.columns.dropWhile isClosed }

/-! ## Between tokens -/

/-- Skips blanks, comments and line breaks in front of the next token.  In block style a tab is
skipped only where no key may begin.  `fuel` is at least the number of characters left. -/
def toNextToken (inFlow : Bool) : Nat → Bool → Cursor → Bool × Cursor
  | 0, keyAllowed, c => (keyAllowed, c)
  | fuel + 1, keyAllowed, c =>
    let c := if c.mark.column = 0 ∧ c.rest.head? = some byteOrderMark then c.skip 1 else c
    let c := c.skipWhile fun x => x = ' ' || (x = '\t' && (inFlow || !keyAllowed))
    let c := if c.rest.head? = some '#' then c.skipWhile fun x => !isBreak x else c
    if c.rest.head?.any isBreak then
      toNextToken inFlow fuel (keyAllowed || !inFlow) c.skipBreak
    else (keyAllowed, c)

/-! ## One token -/

/-- Emits a token of one character. -/
def indicator (s : Scan) (kind : TokenKind) : Scan :=
  { s.emit kind s.mark with cursor := s.cursor.skip 1 }

/-- At the end of the text: closes all collections, on a line of its own. -/
def finish (s : Scan) : Except Fault Scan := do
  let mark := s.mark
  let mark := if mark.column = 0 then mark else ⟨mark.index, mark.line + 1, 0⟩
  let s := { s with cursor := ⟨s.cursor.rest, mark⟩ }
  let s ← (s.closeBlocks none).dropCandidate
  return { s.emit .streamEnd s.mark with keyAllowed := false }

/-- Ends all block collections in front of a token that belongs to no document. -/
def leaveDocument (s : Scan) : Except Fault Scan := do
  let s ← (s.closeBlocks none).dropCandidate
  return { s with keyAllowed := false }

/-- Reads a directive. -/
def fetchDirective (s : Scan) : Except Fault Scan := do
  let s ← s.leaveDocument
  let (kind, c) ← Lexeme.directive s.cursor
  return { s.emit kind s.mark with cursor := c }

/-- Reads a document indicator. -/
def fetchDocumentIndicator (s : Scan) (kind : TokenKind) : Except Fault Scan := do
  let s ← s.leaveDocument
  return { s.emit kind s.mark with cursor := s.cursor.skip 3 }

/-- Reads an opening bracket. -/
def fetchFlowStart (s : Scan) (kind : TokenKind) : Except Fault Scan := do
  let s ← s.noteCandidate
  return { s.indicator kind with
    outer := s.candidate :: s.outer, candidate := none, keyAllowed := true }

/-- Reads a closing bracket. -/
def fetchFlowEnd (s : Scan) (kind : TokenKind) : Except Fault Scan := do
  let s ← s.dropCandidate
  let s := match s.outer with
    | [] => s
    | candidate :: outer => { s with candidate := candidate, outer := outer }
  return { s.indicator kind with keyAllowed := false }

/-- Reads a comma between brackets. -/
def fetchFlowEntry (s : Scan) : Except Fault Scan := do
  let s ← s.dropCandidate
  return { s.indicator .flowEntry with keyAllowed := true }

/-- Opens a block collection at an indicator, where one may begin. -/
def openAtIndicator (s : Scan) (kind : TokenKind) (problem : Problem) : Except Fault Scan :=
  if s.inFlow then .ok s
  else if s.keyAllowed then .ok (s.openBlock s.mark.column kind s.mark)
  else .error ⟨problem, s.mark, none⟩

/-- Reads the hyphen of an item. -/
def fetchBlockEntry (s : Scan) : Except Fault Scan := do
  let s ← s.openAtIndicator .blockSequenceStart .entryNotAllowed
  let s ← s.dropCandidate
  return { s.indicator .blockEntry with keyAllowed := true }

/-- Reads the question mark of a key. -/
def fetchKey (s : Scan) : Except Fault Scan := do
  let s ← s.openAtIndicator .blockMappingStart .keyNotAllowed
  let s ← s.dropCandidate
  return { s.indicator .key with keyAllowed := !s.inFlow }

/-- Reads the colon of a value.  If a key may have begun before, it did. -/
def fetchValue (s : Scan) : Except Fault Scan :=
  match s.candidate with
  | some k =>
    let opening := if !s.inFlow && s.isDeeper k.mark.column then
      [Token.mk .blockMappingStart k.mark] else []
    let columns := if !s.inFlow && s.isDeeper k.mark.column then
      k.mark.column :: s.columns else s.columns
    let s := s.insert k.number (opening ++ [⟨.key, k.mark⟩])
    .ok { s.indicator .value with columns := columns, candidate := none, keyAllowed := false }
  | none => do
    let s ← s.openAtIndicator .blockMappingStart .valueNotAllowed
    return { s.indicator .value with keyAllowed := !s.inFlow }

/-- Reads a token that may begin a key. -/
def fetchContent (s : Scan) (read : Cursor → Except Fault (TokenKind × Cursor)) :
    Except Fault Scan := do
  let s ← s.noteCandidate
  let (kind, c) ← read s.cursor
  return { s.emit kind s.mark with cursor := c, keyAllowed := false }

/-- Reads a plain scalar.  A key may begin behind it if it ended on a further line. -/
def fetchPlain (s : Scan) : Except Fault Scan := do
  let s ← s.noteCandidate
  let least := match s.columns with
    | [] => 0
    | n :: _ => n + 1
  let (kind, onNewLine, c) ← Lexeme.plain s.inFlow least s.cursor
  return { s.emit kind s.mark with cursor := c, keyAllowed := onNewLine }

/-- Reads a block scalar. -/
def fetchBlock (s : Scan) (folded : Bool) : Except Fault Scan := do
  let s ← s.dropCandidate
  let (kind, c) ← Lexeme.block folded s.columns.head? s.cursor
  return { s.emit kind s.mark with cursor := c, keyAllowed := true }

/-- Whether a character may start a plain scalar, `rest` being what follows it. -/
def startsPlain (inFlow : Bool) (c : Char) (rest : List Char) : Bool :=
  if c = '-' then !rest.head?.any isBlank
  else if c = '?' || c = ':' then !inFlow && !atWhite rest
  else !(isWhite c || [',', '[', ']', '{', '}', '#', '&', '*', '!', '|', '>', '\'', '"', '%',
    '@'].contains c || c.toNat = 0x60)

/-- Goes to the next token, where a candidate may turn out to be no key. -/
def approach (s : Scan) : Except Fault Scan :=
  let (keyAllowed, c) := toNextToken s.inFlow (s.cursor.rest.length + 1) s.keyAllowed s.cursor
  dropStale { s with keyAllowed := keyAllowed, cursor := c }

/-- Reads the token that starts with the character `x`, in front of the text `rest`. -/
def fetchFrom (s : Scan) (x : Char) (rest : List Char) : Except Fault Scan :=
  if s.mark.column = 0 && x = '%' then s.fetchDirective
  else if s.mark.column = 0 && Lexeme.isDocumentIndicator (x :: rest) then
    s.fetchDocumentIndicator (if x = '-' then .documentStart else .documentEnd)
  else if x = '[' then s.fetchFlowStart .flowSequenceStart
  else if x = '{' then s.fetchFlowStart .flowMappingStart
  else if x = ']' then s.fetchFlowEnd .flowSequenceEnd
  else if x = '}' then s.fetchFlowEnd .flowMappingEnd
  else if x = ',' then s.fetchFlowEntry
  else if x = '-' && atWhite rest then s.fetchBlockEntry
  else if x = '?' && (s.inFlow || atWhite rest) then s.fetchKey
  else if x = ':' && (s.inFlow || atWhite rest) then s.fetchValue
  else if x = '*' then
    s.fetchContent fun c => (Lexeme.name .alias c).map fun (n, c) => (.alias n, c)
  else if x = '&' then
    s.fetchContent fun c => (Lexeme.name .anchor c).map fun (n, c) => (.anchor n, c)
  else if x = '!' then s.fetchContent (Lexeme.tag s.inFlow)
  else if x = '|' && !s.inFlow then s.fetchBlock false
  else if x = '>' && !s.inFlow then s.fetchBlock true
  else if x = '\'' then s.fetchContent (Lexeme.quoted true)
  else if x = '"' then s.fetchContent (Lexeme.quoted false)
  else if startsPlain s.inFlow x rest then s.fetchPlain
  else .error (.during .nextToken s.mark .noToken s.mark)

/-- Reads the token that starts here, or the end of the text. -/
def dispatch (s : Scan) : Except Fault Scan :=
  match s.cursor.rest with
  | [] => s.finish
  | x :: rest => s.fetchFrom x rest

/-- Reads one more token into the queue, or more if collections end or begin with it. -/
def fetch (s : Scan) : Except Fault Scan :=
  s.approach.bind fun s => (s.closeBlocks (some s.mark.column)).dispatch

/-! ## All tokens -/

/-- Whether a key may have begun at the token at the head of the queue. -/
def headIsCandidate (s : Scan) : Bool :=
  (s.candidate :: s.outer).any fun k => k.any (·.number = s.taken)

/-- Takes tokens off the queue and reads more when it is empty or its head may be a key.  `fuel`
bounds the number of steps. -/
def run : Nat → Scan → List Token × Option Fault
  | 0, _ => ([], none)
  | fuel + 1, s =>
    match s.queue with
    | [] =>
      match s.fetch with
      | .ok s => run fuel s
      | .error f => ([], some f)
    | t :: queue =>
      match s.dropStale with
      | .error f => ([], some f)
      | .ok s =>
        if s.headIsCandidate then
          match s.fetch with
          | .ok s => run fuel s
          | .error f => ([], some f)
        else
          if t.kind = .streamEnd then ([t], none)
          else
            let (ts, f) := run fuel { s with queue := queue, taken := s.taken + 1 }
            (t :: ts, f)

end Scan

/-- The first character that no document may hold, as a fault; `offset` counts the bytes before
the text. -/
def unreadable? (offset : Nat) : List Char → Option Fault
  | [] => none
  | c :: rest =>
    if isReadable c then unreadable? (offset + c.utf8Size) rest
    else some ⟨.controlCharacter, ⟨offset, 0, 0⟩, none⟩

/-- The tokens of a text up to its first fault, and that fault.  A byte-order mark at the start is
no part of the text. -/
def Token.stream (text : List Char) : List Token × Option Fault :=
  let (offset, body) := match text with
    | c :: rest => if c = byteOrderMark then (3, rest) else (0, text)
    | [] => (0, [])
  match unreadable? offset body with
  | some f => ([], some f)
  | none => (Scan.start body).run (8 * body.length + 16)

end Sidecars.Yaml
