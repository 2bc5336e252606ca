/-!
# UTF-8

Bytes and text.  Decoding is a machine that reads one byte at a time and emits a *piece* for
every character it completes and for every maximal run of bytes that begins no character.

* `pieces` splits any byte sequence into such pieces;
* `decode?` accepts the sequences in which every piece is a character;
* `decodeLossy` shows a broken piece as the replacement character U+FFFD;
* `encode` writes text as bytes.
-/

namespace Sidecars

/-- A sequence of octets: the contents of a file, a path, a field of a tag. -/
abbrev Bytes := List UInt8

namespace Text.Utf8

/-- What a byte sequence is made of: characters, and runs of bytes that are no character. -/
inductive Piece where
  /-- A complete, well-formed sequence. -/
  | char (c : Char)
  /-- The longest start of a sequence that the next byte (or the end) cut short, or a byte that
  starts none. -/
  | broken (bytes : Bytes)
deriving DecidableEq, Repr

/-- A character of which some bytes are still to come. -/
structure Pending where
  /-- The bytes read so far, the last one first. -/
  seen : Bytes
  /-- How many bytes are missing; at least one. -/
  need : Nat
  /-- The least value that the next byte may have. -/
  lo : UInt8
  /-- The greatest value that the next byte may have. -/
  hi : UInt8
  /-- The bits collected so far. -/
  value : Nat
deriving DecidableEq, Repr

/-- What the first byte of a character says. -/
inductive Lead where
  /-- The byte is a character by itself. -/
  | ascii (c : Char)
  /-- The byte opens a longer sequence. -/
  | opens (p : Pending)
  /-- The byte opens nothing. -/
  | bad
deriving DecidableEq, Repr

/-- Classifies a first byte.  The ranges for the second byte exclude overlong forms, surrogates
and values above U+10FFFF. -/
def lead (b : UInt8) : Lead :=
  if b < 0x80 then .ascii (Char.ofNat b.toNat)
  else if b < 0xC2 then .bad
  else if b < 0xE0 then .opens ⟨[b], 1, 0x80, 0xBF, b.toNat - 0xC0⟩
  else if b = 0xE0 then .opens ⟨[b], 2, 0xA0, 0xBF, 0⟩
  else if b = 0xED then .opens ⟨[b], 2, 0x80, 0x9F, 0xD⟩
  else if b < 0xF0 then .opens ⟨[b], 2, 0x80, 0xBF, b.toNat - 0xE0⟩
  else if b = 0xF0 then .opens ⟨[b], 3, 0x90, 0xBF, 0⟩
  else if b < 0xF4 then .opens ⟨[b], 3, 0x80, 0xBF, b.toNat - 0xF0⟩
  else if b = 0xF4 then .opens ⟨[b], 3, 0x80, 0x8F, 4⟩
  else .bad

/-- The machine: `piecesFrom p bytes` reads `bytes` with the character `p` begun. -/
def piecesFrom : Option Pending → Bytes → List Piece
  | none, [] => []
  | some p, [] => [.broken p.seen.reverse]
  | none, b :: rest =>
    match lead b with
    | .ascii c => .char c :: piecesFrom none rest
    | .opens p => piecesFrom (some p) rest
    | .bad => .broken [b] :: piecesFrom none rest
  | some p, b :: rest =>
    if p.lo ≤ b ∧ b ≤ p.hi then
      let value := p.value * 64 + (b.toNat - 0x80)
      if p.need ≤ 1 then .char (Char.ofNat value) :: piecesFrom none rest
      else piecesFrom (some ⟨b :: p.seen, p.need - 1, 0x80, 0xBF, value⟩) rest
    else
      .broken p.seen.reverse ::
        match lead b with
        | .ascii c => .char c :: piecesFrom none rest
        | .opens q => piecesFrom (some q) rest
        | .bad => .broken [b] :: piecesFrom none rest

/-- The pieces of a byte sequence. -/
def pieces (bytes : Bytes) : List Piece :=
  piecesFrom none bytes

/-- The character of a piece that is one. -/
def Piece.char? : Piece → Option Char
  | .char c => some c
  | .broken _ => none

/-- The characters of a well-formed byte sequence. -/
def decodeChars? (bytes : Bytes) : Option (List Char) :=
  (pieces bytes).mapM Piece.char?

/-- The text of a well-formed byte sequence. -/
def decode? (bytes : Bytes) : Option String :=
  (decodeChars? bytes).map String.ofList

/-- The text of any byte sequence: every broken piece is shown as U+FFFD. -/
def decodeLossy (bytes : Bytes) : String :=
  String.ofList <| (pieces bytes).map fun p => p.char?.getD '\uFFFD'

/-- The bytes of a sequence of characters. -/
def encodeChars (s : List Char) : Bytes :=
  s.flatMap String.utf8EncodeChar

/-- The bytes of a text. -/
def encode (s : String) : Bytes :=
  encodeChars s.toList

end Text.Utf8
end Sidecars
