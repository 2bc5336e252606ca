import Sidecars.Yaml.Token
import Sidecars.Yaml.Scalar

/-!
# Lexemes

The tokens that carry content, each read from the place where it starts: directives, anchors and
aliases, tags, and scalars in their five forms.  Every function returns the token and the place
behind it, or the fault that ends the document.

The three kinds of scalar are machines that consume one character at a time; what a line break
becomes is decided when the next line is reached.
-/

namespace Sidecars.Yaml.Lexeme

/-- What a line break is in the text of a scalar. -/
def foldedBreak (c : Char) : Char := if c = '\u2028' || c = '\u2029' then c else '\n'

/-- Whether the text at the start of a line is a document indicator. -/
def isDocumentIndicator : List Char → Bool
  | '-' :: '-' :: '-' :: rest => atWhite rest
  | '.' :: '.' :: '.' :: rest => atWhite rest
  | _ => false

/-! ## Directives -/

/-- Reads a number of a version directive. -/
def versionNumber (since : Mark) (c : Cursor) : Except Fault (Nat × Cursor) :=
  let digits := c.rest.takeWhile Char.isDigit
  if digits.length > 9 then
    .error (.during .versionDirective since .longVersion (c.mark.advance 9))
  else match Scalar.natural? 10 digits with
    | none => .error (.during .versionDirective since .noVersion c.mark)
    | some n => .ok (n, c.skip digits.length)

/-- Reads the rest of a version directive behind its name. -/
def versionDirective (since : Mark) (c : Cursor) : Except Fault (TokenKind × Cursor) := do
  let (major, c) ← versionNumber since (c.skipWhile isBlank)
  if c.rest.head? ≠ some '.' then
    throw (.during .versionDirective since .noVersionDot c.mark)
  let (minor, c) ← versionNumber since (c.skip 1)
  return (.versionDirective major minor, c)

/-- Whether a character may stand in a tag as it is. -/
def isUriChar (verbatim : Bool) (c : Char) : Bool :=
  isWord c || [';', '/', '?', ':', '@', '&', '=', '+', '$', '.', '%', '!', '~', '*', '\'', '(',
    ')'].contains c || (verbatim && (c = ',' || c = '[' || c = ']'))

/-- The value of two hexadecimal digits. -/
def octet? (a b : Char) : Option Nat := Scalar.natural? 16 [a, b]

/-- How many octets a character takes, by its first. -/
def octetCount (n : Nat) : Nat :=
  if n < 0x80 then 1
  else if n < 0xC0 then 0
  else if n < 0xE0 then 2
  else if n < 0xF0 then 3
  else if n < 0xF8 then 4
  else 0

/-- Reads the characters of a tag; `owed` escaped octets are still to come, `seen` is what was
read, the last byte first. -/
def uriFrom (verbatim : Bool) (activity : Activity) (since : Mark) (owed : Nat) (seen : Bytes)
    (mark : Mark) : List Char → Except Fault (Bytes × Cursor)
  | '%' :: a :: b :: rest =>
    match octet? a b with
    | none => .error (.during activity since .noOctet mark)
    | some n =>
      if owed = 0 then
        if octetCount n = 0 then .error (.during activity since .badLeadingOctet mark)
        else uriFrom verbatim activity since (octetCount n - 1) (UInt8.ofNat n :: seen)
          (mark.advance 3) rest
      else if n < 0x80 ∨ 0xC0 ≤ n then .error (.during activity since .badTrailingOctet mark)
      else uriFrom verbatim activity since (owed - 1) (UInt8.ofNat n :: seen) (mark.advance 3) rest
  | rest =>
    if owed ≠ 0 ∨ rest.head? = some '%' then .error (.during activity since .noOctet mark)
    else match rest with
      | c :: more =>
        if isUriChar verbatim c then
          uriFrom verbatim activity since 0 (UInt8.ofNat c.toNat :: seen) mark.next more
        else .ok (seen.reverse, ⟨rest, mark⟩)
      | [] => .ok (seen.reverse, ⟨[], mark⟩)

/-- Reads the characters of a tag after the part `head` of it; there must be some. -/
def uri (verbatim : Bool) (activity : Activity) (since : Mark) (head : List Char) (c : Cursor) :
    Except Fault (Bytes × Cursor) := do
  let start := Text.Utf8.encodeChars (head.drop 1)
  let (bytes, c') ← uriFrom verbatim activity since 0 start.reverse c.mark c.rest
  if head = [] ∧ c'.rest.length = c.rest.length then
    throw (.during activity since .noTagUri c'.mark)
  return (bytes, c')

/-- The handle of a tag: an exclamation mark, a word, and a further mark if there is one. -/
def tagHandle (c : Cursor) : List Char × Cursor :=
  let word := (c.rest.drop 1).takeWhile isWord
  let c' := c.skip (1 + word.length)
  if c'.rest.head? = some '!' then ('!' :: word ++ ['!'], c'.skip 1) else ('!' :: word, c')

/-- Reads the rest of a tag directive behind its name. -/
def tagDirective (since : Mark) (c : Cursor) : Except Fault (TokenKind × Cursor) := do
  let c := c.skipWhile isBlank
  if c.rest.head? ≠ some '!' then
    throw (.during .tagDirectiveHandle since .noTagMark c.mark)
  let (handle, c) := tagHandle c
  if handle.length > 1 ∧ handle.getLast? ≠ some '!' then
    throw (.during .tagDirectiveMark since .noTagMark c.mark)
  if ¬ c.rest.head?.any isBlank then
    throw (.during .tagDirective since .noBlank c.mark)
  let (expansion, c) ← uri true .tagDirectivePart since [] (c.skipWhile isBlank)
  if ¬ atWhite c.rest then
    throw (.during .tagDirective since .noBlankOrBreak c.mark)
  return (.tagDirective handle expansion, c)

/-- Skips blanks and a comment, up to the end of the line and over it. -/
def restOfLine (activity : Activity) (since : Mark) (c : Cursor) : Except Fault Cursor :=
  let c := c.skipWhile isBlank
  let c := if c.rest.head? = some '#' then c.skipWhile fun x => !isBreak x else c
  if atLineEnd c.rest then .ok c.skipBreak
  else .error (.during activity since .noCommentOrBreak c.mark)

/-- Reads a directive from its percent sign. -/
def directive (c : Cursor) : Except Fault (TokenKind × Cursor) := do
  let since := c.mark
  let name := (c.rest.drop 1).takeWhile isWord
  let c := c.skip (1 + name.length)
  if name = [] then throw (.during .directive since .noDirectiveName c.mark)
  if ¬ atWhite c.rest then throw (.during .directive since .badDirectiveName c.mark)
  let (kind, c) ←
    if name = ['Y', 'A', 'M', 'L'] then versionDirective since c
    else if name = ['T', 'A', 'G'] then tagDirective since c
    else throw (.during .directive since .unknownDirective c.mark)
  return (kind, ← restOfLine .directive since c)

/-! ## Anchors, aliases and tags -/

/-- Reads the name of an anchor or alias from its sign. -/
def name (activity : Activity) (c : Cursor) : Except Fault (List Char × Cursor) :=
  let word := (c.rest.drop 1).takeWhile isWord
  let c' := c.skip (1 + word.length)
  let ended := atWhite c'.rest || c'.rest.head?.any fun x =>
    x = '?' || x = ':' || x = ',' || x = ']' || x = '}' || x = '%' || x = '@' || x.toNat = 0x60
  if word ≠ [] ∧ ended then .ok (word, c')
  else .error (.during activity c.mark .noWordCharacter c'.mark)

/-- Reads a tag from its exclamation mark. -/
def tag (inFlow : Bool) (c : Cursor) : Except Fault (TokenKind × Cursor) := do
  let since := c.mark
  let (handle, suffix, c) ←
    if (c.rest.drop 1).head? = some '<' then do
      let (suffix, c) ← uri true .tagPart since [] (c.skip 2)
      if c.rest.head? ≠ some '>' then throw (.during .tag since .noTagEnd c.mark)
      pure ([], suffix, c.skip 1)
    else do
      let (handle, c) := tagHandle c
      if handle.length > 1 ∧ handle.getLast? = some '!' then do
        let (suffix, c) ← uri false .tagPart since [] c
        pure (handle, suffix, c)
      else do
        let (suffix, c) ← uri false .tagPart since handle c
        if suffix = [] then pure ([], [0x21], c) else pure (['!'], suffix, c)
  if ¬ (atWhite c.rest ∨ (inFlow ∧ c.rest.head? = some ',')) then
    throw (.during .tag since .noBlankOrBreak c.mark)
  return (.tag handle suffix, c)

/-! ## White space inside a scalar -/

/-- What was read of a scalar that folds its lines: the text, and the white space after it, of
which it is not known yet whether it belongs to the text. -/
structure Folding where
  /-- The text, the last character first. -/
  text : List Char
  /-- Blanks on the line of the text, the last one first. -/
  blanks : List Char
  /-- The first line break after the text, if any. -/
  firstBreak : Option Char
  /-- The line breaks after the first, the last one first. -/
  moreBreaks : List Char
  /-- Whether a line ended since the text. -/
  onNewLine : Bool
deriving DecidableEq, Repr

namespace Folding

/-- Nothing read yet. -/
def empty : Folding := ⟨[], [], none, [], false⟩

/-- After a blank. -/
def blank (f : Folding) (c : Char) : Folding :=
  if f.onNewLine then f else { f with blanks := c :: f.blanks }

/-- After a line break. -/
def newLine (f : Folding) (c : Char) : Folding :=
  if f.onNewLine then { f with moreBreaks := foldedBreak c :: f.moreBreaks }
  else { f with blanks := [], firstBreak := some (foldedBreak c), onNewLine := true }

/-- The text with the white space after it: blanks stay as they are, one line break becomes a
space, and of several line breaks the first is dropped. -/
def joined (f : Folding) : List Char :=
  if f.onNewLine then
    match f.firstBreak with
    | some '\n' => (if f.moreBreaks = [] then [' '] else f.moreBreaks) ++ f.text
    | some b => f.moreBreaks ++ b :: f.text
    | none => f.moreBreaks ++ f.text
  else f.blanks ++ f.text

/-- After a character of the text. -/
def push (f : Folding) (c : Char) : Folding := ⟨c :: f.joined, [], none, [], false⟩

/-- After a line break that is not part of the text. -/
def hiddenNewLine (f : Folding) : Folding := ⟨f.joined, [], none, [], true⟩

end Folding

/-! ## Plain scalars -/

/-- Reads an unquoted scalar.  `indent` is the least column of its further lines in block style;
`fresh` says that white space, or nothing, was read last. -/
def plainFrom (inFlow : Bool) (indent : Nat) (since : Mark) (fresh : Bool) (f : Folding)
    (mark : Mark) : List Char → Except Fault (Folding × Cursor)
  | [] => .ok (f, ⟨[], mark⟩)
  | '\r' :: '\n' :: rest =>
    plainFrom inFlow indent since true (f.newLine '\n') (mark.newLine 2) rest
  | c :: rest =>
    if isBreak c then plainFrom inFlow indent since true (f.newLine c) (mark.newLine 1) rest
    else if isBlank c then
      if f.onNewLine ∧ mark.column < indent ∧ c = '\t' then
        .error (.during .plainScalar since .tabBelowIndentation mark)
      else plainFrom inFlow indent since true (f.blank c) mark.next rest
    else if fresh && ((!inFlow && mark.column < indent && f.text ≠ [])
        || (mark.column = 0 && isDocumentIndicator (c :: rest)) || c = '#') then
      .ok (f, ⟨c :: rest, mark⟩)
    else if inFlow && c = ':' && rest.head?.any [',', '?', '[', ']', '{', '}'].contains then
      .error (.during .plainScalar since .colonInFlow mark)
    else if (c = ':' && atWhite rest) || (inFlow && [',', '[', ']', '{', '}'].contains c) then
      .ok (f, ⟨c :: rest, mark⟩)
    else plainFrom inFlow indent since false (f.push c) mark.next rest

/-- Reads an unquoted scalar.  The result says whether the place behind it is on a further
line. -/
def plain (inFlow : Bool) (indent : Nat) (c : Cursor) :
    Except Fault (TokenKind × Bool × Cursor) := do
  let (f, c') ← plainFrom inFlow indent c.mark true .empty c.mark c.rest
  return (.scalar f.text.reverse .plain, f.onNewLine, c')

/-! ## Quoted scalars -/

/-- The character that an escape of one letter stands for. -/
def escape? (c : Char) : Option Char :=
  match c with
  | '0' => some '\u0000'
  | 'a' => some '\u0007'
  | 'b' => some '\u0008'
  | 't' => some '\t'
  | '\t' => some '\t'
  | 'n' => some '\n'
  | 'v' => some '\u000B'
  | 'f' => some '\u000C'
  | 'r' => some '\r'
  | 'e' => some '\u001B'
  | ' ' => some ' '
  | '"' => some '"'
  | '/' => some '/'
  | '\\' => some '\\'
  | 'N' => some '\u0085'
  | '_' => some '\u00A0'
  | 'L' => some '\u2028'
  | 'P' => some '\u2029'
  | _ => none

/-- How many digits follow the letter of an escape. -/
def escapeDigits? (c : Char) : Option Nat :=
  match c with
  | 'x' => some 2
  | 'u' => some 4
  | 'U' => some 8
  | _ => none

/-- What a quoted scalar expects next. -/
inductive QuotedPhase where
  /-- A character of the text, white space or the end. -/
  | text
  /-- As `text`, with white space just read. -/
  | white
  /-- So many more digits of an escape; the value of those read, and where they began. -/
  | digits (left value : Nat) (first : Mark)
deriving DecidableEq, Repr

/-- Reads the inside of a quoted scalar up to its closing quote. -/
def quotedFrom (single : Bool) (since : Mark) (phase : QuotedPhase) (f : Folding) (mark : Mark) :
    List Char → Except Fault (Folding × Cursor)
  | [] =>
    match phase with
    | .digits _ _ first => .error (.during .quotedScalarPart since .noHexDigit first)
    | _ => .error (.during .quotedScalar since .endInScalar mark)
  | c :: rest =>
    match phase with
    | .digits left value first =>
      match Scalar.digit? 16 c with
      | none => .error (.during .quotedScalarPart since .noHexDigit first)
      | some d =>
        let value := value * 16 + d
        if left ≤ 1 then
          if value.isValidChar then
            quotedFrom single since .text (f.push (Char.ofNat value)) mark.next rest
          else .error (.during .quotedScalarPart since .badCodePoint first)
        else quotedFrom single since (.digits (left - 1) value first) f mark.next rest
    | _ =>
      if isBlank c then quotedFrom single since .white (f.blank c) mark.next rest
      else if isBreak c then
        match c, rest with
        | '\r', '\n' :: rest => quotedFrom single since .white (f.newLine c) (mark.newLine 2) rest
        | _, rest => quotedFrom single since .white (f.newLine c) (mark.newLine 1) rest
      else if phase = .white ∧ mark.column = 0 ∧ isDocumentIndicator (c :: rest) then
        .error (.during .quotedScalar since .documentInScalar mark)
      else if single then
        if c = '\'' then
          match rest with
          | '\'' :: rest => quotedFrom single since .text (f.push c) (mark.advance 2) rest
          | _ => .ok ({ f with text := f.joined }, ⟨rest, mark.next⟩)
        else quotedFrom single since .text (f.push c) mark.next rest
      else if c = '"' then .ok ({ f with text := f.joined }, ⟨rest, mark.next⟩)
      else if c = '\\' then
        match rest with
        | [] => .error (.during .quotedScalarPart since .unknownEscape mark)
        | '\r' :: '\n' :: rest =>
          quotedFrom single since .white f.hiddenNewLine (mark.next.newLine 2) rest
        | e :: rest =>
          if isBreak e then
            quotedFrom single since .white f.hiddenNewLine (mark.next.newLine 1) rest
          else match escape? e, escapeDigits? e with
            | some x, _ => quotedFrom single since .text (f.push x) (mark.advance 2) rest
            | none, some n =>
              quotedFrom single since (.digits n 0 (mark.advance 2)) f (mark.advance 2) rest
            | none, none => .error (.during .quotedScalarPart since .unknownEscape mark)
      else quotedFrom single since .text (f.push c) mark.next rest

/-- Reads a quoted scalar from its opening quote. -/
def quoted (single : Bool) (c : Cursor) : Except Fault (TokenKind × Cursor) := do
  let (f, c') ← quotedFrom single c.mark .text .empty c.mark.next (c.rest.drop 1)
  return (.scalar f.text.reverse .quoted, c')

/-! ## Block scalars -/

/-- What becomes of the line breaks at the end of a block. -/
inductive Chomping where
  /-- None is kept. -/
  | strip
  /-- The first is kept. -/
  | clip
  /-- All are kept. -/
  | keep
deriving DecidableEq, Repr

/-- What was read of a block scalar. -/
structure Block where
  /-- The text up to the end of the last line that is not empty, the last character first. -/
  text : List Char
  /-- The line break at the end of that line. -/
  firstBreak : Option Char
  /-- The line breaks after it, the last one first. -/
  moreBreaks : List Char
  /-- Whether that line started with a blank. -/
  blankLine : Bool
  /-- The column of the lines; zero while it is not known. -/
  indent : Nat
  /-- The widest margin of the empty lines at the start. -/
  widest : Nat
deriving DecidableEq, Repr

namespace Block

/-- The text as far as the start of a further line that begins with `c`. -/
def joined (b : Block) (folded : Bool) (c : Char) : List Char :=
  let first :=
    if folded && b.firstBreak = some '\n' && !b.blankLine && !isBlank c then
      if b.moreBreaks = [] then [' '] else []
    else b.firstBreak.toList
  b.moreBreaks ++ first ++ b.text

/-- The text of a complete block, in order. -/
def result (b : Block) (chomping : Chomping) : List Char :=
  let tail := match chomping with
    | .strip => []
    | .clip => b.firstBreak.toList
    | .keep => b.moreBreaks ++ b.firstBreak.toList
  (tail ++ b.text).reverse

/-- Whether the margin is still being read at a column. -/
def inMargin (b : Block) (column : Nat) : Bool := b.indent = 0 || column < b.indent

/-- The column of the lines, once the first line that is not empty is reached. -/
def settled (b : Block) (least column : Nat) : Nat :=
  if b.indent = 0 then max (max b.widest column) (max least 1) else b.indent

end Block

/-- Reads the lines of a block.  `least` is the least column that its lines may have; `inLine`
says that the margin of the current line has been read. -/
def blockFrom (folded : Bool) (least : Nat) (since : Mark) (inLine : Bool) (b : Block)
    (mark : Mark) : List Char → Except Fault (Block × Cursor)
  | [] => .ok (b, ⟨[], mark⟩)
  | '\r' :: '\n' :: rest =>
    if inLine then
      blockFrom folded least since false { b with firstBreak := some '\n', moreBreaks := [] }
        (mark.newLine 2) rest
    else
      blockFrom folded least since false
        { b with moreBreaks := '\n' :: b.moreBreaks, widest := max b.widest mark.column }
        (mark.newLine 2) rest
  | c :: rest =>
    if isBreak c then
      if inLine then
        blockFrom folded least since false { b with firstBreak := some (foldedBreak c), moreBreaks := [] }
          (mark.newLine 1) rest
      else
        blockFrom folded least since false
          { b with moreBreaks := foldedBreak c :: b.moreBreaks, widest := max b.widest mark.column }
          (mark.newLine 1) rest
    else if inLine then
      blockFrom folded least since true { b with text := c :: b.text } mark.next rest
    else if c = ' ' ∧ b.inMargin mark.column then
      blockFrom folded least since false b mark.next rest
    else if c = '\t' ∧ b.inMargin mark.column then
      .error (.during .blockScalar since .tabInIndentation mark)
    else
      let indent := b.settled least mark.column
      if mark.column = indent then
        blockFrom folded least since true
          { text := c :: b.joined folded c, firstBreak := none, moreBreaks := [],
            blankLine := isBlank c, indent := indent, widest := 0 } mark.next rest
      else .ok (b, ⟨c :: rest, mark⟩)

/-- Reads the indicators behind the sign of a block: the indentation, zero if there is none, and
the chomping, in either order. -/
def blockHeader (since : Mark) (c : Cursor) : Except Fault (Nat × Chomping × Cursor) :=
  let chomping? (x : Option Char) : Option Chomping :=
    if x = some '+' then some .keep else if x = some '-' then some .strip else none
  let digit? (x : Option Char) : Option Nat := x.bind (Scalar.digit? 10)
  match chomping? c.rest.head? with
  | some chomping =>
    let c := c.skip 1
    match digit? c.rest.head? with
    | some 0 => .error (.during .blockScalar since .zeroIndentation c.mark)
    | some n => .ok (n, chomping, c.skip 1)
    | none => .ok (0, chomping, c)
  | none =>
    match digit? c.rest.head? with
    | some 0 => .error (.during .blockScalar since .zeroIndentation c.mark)
    | some n =>
      let c := c.skip 1
      match chomping? c.rest.head? with
      | some chomping => .ok (n, chomping, c.skip 1)
      | none => .ok (n, .clip, c)
    | none => .ok (0, .clip, c)

/-- Reads a block scalar from its sign.  `outer` is the column of the collection around it, if
there is one. -/
def block (folded : Bool) (outer : Option Nat) (c : Cursor) : Except Fault (TokenKind × Cursor) := do
  let since := c.mark
  let (increment, chomping, c) ← blockHeader since (c.skip 1)
  let c ← restOfLine .blockScalar since c
  let indent := if increment = 0 then 0 else outer.getD 0 + increment
  let least := match outer with
    | some n => n + 1
    | none => 0
  let (b, c) ← blockFrom folded least since false ⟨[], none, [], false, indent, 0⟩ c.mark c.rest
  return (.scalar (b.result chomping) .quoted, c)

end Sidecars.Yaml.Lexeme
