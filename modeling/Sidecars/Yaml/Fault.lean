/-!
# Faults of a document

A place in a text, and what can be wrong with the syntax of a document at such a place.  A fault
names the problem, where it was noticed, and often what was being read and since where.
-/

namespace Sidecars.Yaml

/-- A place in a text, all three counted from zero. -/
structure Mark where
  /-- The number of characters before the place. -/
  index : Nat
  /-- The number of lines before the line of the place. -/
  line : Nat
  /-- The number of characters before the place on its line. -/
  column : Nat
deriving DecidableEq, Repr, Inhabited

namespace Mark

/-- The start of a text. -/
def start : Mark := ⟨0, 0, 0⟩

/-- Behind one more character of the line. -/
def next (m : Mark) : Mark := ⟨m.index + 1, m.line, m.column + 1⟩

/-- Behind `n` more characters of the line. -/
def advance (m : Mark) (n : Nat) : Mark := ⟨m.index + n, m.line, m.column + n⟩

/-- Behind a line break of `n` characters. -/
def newLine (m : Mark) (n : Nat) : Mark := ⟨m.index + n, m.line + 1, 0⟩

/-- Whether the place is at the start of the text. -/
def atStart (m : Mark) : Bool := m.line = 0 && m.column = 0

/-- The place in words; the start of a text goes unmentioned. -/
def suffix (m : Mark) : String :=
  if m.atStart then "" else s!" at line {m.line + 1} column {m.column + 1}"

end Mark

/-- What is wrong. -/
inductive Problem where
  | controlCharacter
  | unknownDirective
  | longVersion
  | noVersion
  | noVersionDot
  | noDirectiveName
  | badDirectiveName
  | noBlank
  | noBlankOrBreak
  | noCommentOrBreak
  | noWordCharacter
  | noTagEnd
  | noTagMark
  | noTagUri
  | noOctet
  | badLeadingOctet
  | badTrailingOctet
  | zeroIndentation
  | tabInIndentation
  | tabBelowIndentation
  | documentInScalar
  | endInScalar
  | unknownEscape
  | noHexDigit
  | badCodePoint
  | colonInFlow
  | noToken
  | noColon
  | entryNotAllowed
  | keyNotAllowed
  | valueNotAllowed
  | duplicateVersion
  | badVersion
  | duplicateTagHandle
  | noDocumentStart
  | unknownTagHandle
  | noNode
  | noEntry
  | noKey
  | noSequenceEnd
  | noMappingEnd
deriving DecidableEq, Repr

/-- The wording of a problem. -/
def Problem.message : Problem → String
  | .controlCharacter => "control characters are not allowed"
  | .unknownDirective => "found unknown directive name"
  | .longVersion => "found extremely long version number"
  | .noVersion => "did not find expected version number"
  | .noVersionDot => "did not find expected digit or '.' character"
  | .noDirectiveName => "could not find expected directive name"
  | .badDirectiveName => "found unexpected non-alphabetical character"
  | .noBlank => "did not find expected whitespace"
  | .noBlankOrBreak => "did not find expected whitespace or line break"
  | .noCommentOrBreak => "did not find expected comment or line break"
  | .noWordCharacter => "did not find expected alphabetic or numeric character"
  | .noTagEnd => "did not find the expected '>'"
  | .noTagMark => "did not find expected '!'"
  | .noTagUri => "did not find expected tag URI"
  | .noOctet => "did not find URI escaped octet"
  | .badLeadingOctet => "found an incorrect leading UTF-8 octet"
  | .badTrailingOctet => "found an incorrect trailing UTF-8 octet"
  | .zeroIndentation => "found an indentation indicator equal to 0"
  | .tabInIndentation => "found a tab character where an indentation space is expected"
  | .tabBelowIndentation => "found a tab character that violates indentation"
  | .documentInScalar => "found unexpected document indicator"
  | .endInScalar => "found unexpected end of stream"
  | .unknownEscape => "found unknown escape character"
  | .noHexDigit => "did not find expected hexdecimal number"
  | .badCodePoint => "found invalid Unicode character escape code"
  | .colonInFlow => "found unexpected ':'"
  | .noToken => "found character that cannot start any token"
  | .noColon => "could not find expected ':'"
  | .entryNotAllowed => "block sequence entries are not allowed in this context"
  | .keyNotAllowed => "mapping keys are not allowed in this context"
  | .valueNotAllowed => "mapping values are not allowed in this context"
  | .duplicateVersion => "found duplicate %YAML directive"
  | .badVersion => "found incompatible YAML document"
  | .duplicateTagHandle => "found duplicate %TAG directive"
  | .noDocumentStart => "did not find expected <document start>"
  | .unknownTagHandle => "found undefined tag handle"
  | .noNode => "did not find expected node content"
  | .noEntry => "did not find expected '-' indicator"
  | .noKey => "did not find expected key"
  | .noSequenceEnd => "did not find expected ',' or ']'"
  | .noMappingEnd => "did not find expected ',' or '\x7d'"

/-- What was being read. -/
inductive Activity where
  | directive
  | versionDirective
  | tagDirective
  | tagDirectiveHandle
  | tagDirectiveMark
  | tagDirectivePart
  | anchor
  | alias
  | tag
  | tagPart
  | blockScalar
  | quotedScalar
  | quotedScalarPart
  | plainScalar
  | nextToken
  | simpleKey
  | node
  | blockNode
  | flowNode
  | blockCollection
  | blockMapping
  | flowSequence
  | flowMapping
deriving DecidableEq, Repr

/-- The wording of what was being read. -/
def Activity.message : Activity → String
  | .directive => "while scanning a directive"
  | .versionDirective => "while scanning a %YAML directive"
  | .tagDirective => "while scanning a %TAG directive"
  | .tagDirectiveHandle => "while scanning a tag directive"
  | .tagDirectiveMark => "while parsing a tag directive"
  | .tagDirectivePart => "while parsing a %TAG directive"
  | .anchor => "while scanning an anchor"
  | .alias => "while scanning an alias"
  | .tag => "while scanning a tag"
  | .tagPart => "while parsing a tag"
  | .blockScalar => "while scanning a block scalar"
  | .quotedScalar => "while scanning a quoted scalar"
  | .quotedScalarPart => "while parsing a quoted scalar"
  | .plainScalar => "while scanning a plain scalar"
  | .nextToken => "while scanning for the next token"
  | .simpleKey => "while scanning a simple key"
  | .node => "while parsing a node"
  | .blockNode => "while parsing a block node"
  | .flowNode => "while parsing a flow node"
  | .blockCollection => "while parsing a block collection"
  | .blockMapping => "while parsing a block mapping"
  | .flowSequence => "while parsing a flow sequence"
  | .flowMapping => "while parsing a flow mapping"

/-- A fault in the syntax of a document. -/
structure Fault where
  /-- What is wrong. -/
  problem : Problem
  /-- Where it was noticed. -/
  mark : Mark
  /-- What was being read, and where that began. -/
  context : Option (Activity × Mark)
deriving DecidableEq, Repr

/-- A fault noticed while something was being read. -/
def Fault.during (activity : Activity) (since : Mark) (problem : Problem) (mark : Mark) : Fault :=
  ⟨problem, mark, some (activity, since)⟩

/-- The wording of a fault.  A character that no document may hold is placed by the number of
bytes before it, every other problem by line and column; the beginning of what was being read is
mentioned if it is somewhere else. -/
def Fault.message (f : Fault) : String :=
  let place :=
    if f.problem = .controlCharacter then
      if f.mark.index = 0 then "" else s!" at position {f.mark.index}"
    else f.mark.suffix
  let context := match f.context with
    | none => ""
    | some (activity, since) =>
      ", " ++ activity.message ++
        if since.line = f.mark.line ∧ since.column = f.mark.column then "" else since.suffix
  f.problem.message ++ place ++ context

end Sidecars.Yaml
