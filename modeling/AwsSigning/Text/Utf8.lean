/-
AwsSigning/Text/Utf8.lean

Bytes and the text they spell.  A small machine reads UTF-8 one byte at a
time: it is either between two characters or inside one, and then it knows
how many bytes are still owed and which range the next one has to be in.
Narrowing that range for the second byte is all it takes to refuse overlong
forms, surrogates and values beyond the last code point.

What the machine emits are *pieces*: characters, and broken parts.  A broken
part is as long as it can be while still opening some character, so one
stray byte never swallows the good bytes after it.  Three readings share the
pieces:

* `decode?` accepts the input when no piece is broken;
* `decodeLossy` puts U+FFFD in the place of each broken part;
* `firstFault?` says where the first broken part stands and how long it is.
-/

namespace AwsSigning

/-- A string of bytes. -/
abbrev Bytes := List UInt8

namespace Utf8

/-! ### Writing -/

/-- The bytes of a text. -/
def encode (s : List Char) : Bytes := s.flatMap String.utf8EncodeChar

/-- The bytes of a string. -/
def ofString (s : String) : Bytes := encode s.toList

/-! ### The reading machine -/

/-- Where the reader stands between two bytes. -/
inductive Stand where
  /-- Between two characters. -/
  | between
  /-- Inside a character: bytes seen, bytes owed, range of the next byte, bits read so far. -/
  | inside (seen owed : Nat) (low high : UInt8) (bits : Nat)
deriving DecidableEq, Repr

/-- What the reader emits. -/
inductive Piece where
  /-- A well-formed character. -/
  | char (c : Char)
  /-- A part that is no character; `cut` tells that the input ended inside it. -/
  | broken (length : Nat) (cut : Bool)
deriving DecidableEq, Repr

/-- One byte where a character may start. -/
def start (b : UInt8) : List Piece × Stand :=
  if b < 0x80 then ([.char (Char.ofNat b.toNat)], .between)
  else if b < 0xC2 then ([.broken 1 false], .between)
  else if b < 0xE0 then ([], .inside 1 1 0x80 0xBF (b.toNat - 0xC0))
  else if b = 0xE0 then ([], .inside 1 2 0xA0 0xBF 0)
  else if b = 0xED then ([], .inside 1 2 0x80 0x9F 0xD)
  else if b < 0xF0 then ([], .inside 1 2 0x80 0xBF (b.toNat - 0xE0))
  else if b = 0xF0 then ([], .inside 1 3 0x90 0xBF 0)
  else if b < 0xF4 then ([], .inside 1 3 0x80 0xBF (b.toNat - 0xF0))
  else if b = 0xF4 then ([], .inside 1 3 0x80 0x8F 4)
  else ([.broken 1 false], .between)

/-- One byte: the pieces it completes and where the reader stands after it. -/
def step : Stand → UInt8 → List Piece × Stand
  | .between, b => start b
  | .inside seen owed low high bits, b =>
    if low ≤ b ∧ b ≤ high then
      let bits := bits * 64 + (b.toNat - 0x80)
      if owed ≤ 1 then ([.char (Char.ofNat bits)], .between)
      else ([], .inside (seen + 1) (owed - 1) 0x80 0xBF bits)
    else
      let (pieces, stand) := start b
      (.broken seen false :: pieces, stand)

/-- The pieces of an input read from a given stand. -/
def piecesFrom : Stand → Bytes → List Piece
  | .between, [] => []
  | .inside seen _ _ _ _, [] => [.broken seen true]
  | stand, b :: rest =>
    let (pieces, stand) := step stand b
    pieces ++ piecesFrom stand rest

/-- The pieces of an input. -/
def pieces (bytes : Bytes) : List Piece := piecesFrom .between bytes

/-! ### The three readings -/

/-- The character a piece stands for in strict reading. -/
def Piece.char? : Piece → Option Char
  | .char c => some c
  | .broken _ _ => none

/-- The character a piece stands for in lossy reading. -/
def Piece.charLossy : Piece → Char
  | .char c => c
  | .broken _ _ => '\uFFFD'

/-- The text, if every byte is part of a well-formed character. -/
def decode? (bytes : Bytes) : Option (List Char) := (pieces bytes).mapM Piece.char?

/-- The text with each broken part replaced by U+FFFD. -/
def decodeLossy (bytes : Bytes) : List Char := (pieces bytes).map Piece.charLossy

/-- The string, if every byte is part of a well-formed character. -/
def toString? (bytes : Bytes) : Option String := (decode? bytes).map String.ofList

/-- The string with each broken part replaced by U+FFFD. -/
def toStringLossy (bytes : Bytes) : String := String.ofList (decodeLossy bytes)

/-- The first broken part of an input. -/
structure Fault where
  /-- How many bytes stand before it. -/
  offset : Nat
  /-- Its length, or none if the input ended inside it. -/
  length? : Option Nat
deriving DecidableEq, Repr

/-- The first broken part among pieces that start after `read` bytes. -/
def faultAfter (read : Nat) : List Piece → Option Fault
  | [] => none
  | .char c :: rest => faultAfter (read + c.utf8Size) rest
  | .broken length cut :: _ => some ⟨read, if cut then none else some length⟩

/-- The first broken part of an input. -/
def firstFault? (bytes : Bytes) : Option Fault := faultAfter 0 (pieces bytes)

end Utf8

end AwsSigning
