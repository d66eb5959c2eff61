/-
AwsSigning/Text/Percent.lean

Percent-encoding: a byte that may not stand for itself is written as `%` and
two hexadecimal digits in capital letters.  Which bytes may stand for
themselves is a parameter; the percent sign never does in the sets used here,
which is what makes decoding undo encoding.

Decoding never fails.  A `%` without two hexadecimal digits behind it stands
for itself.
-/
import AwsSigning.Digest.Hex

namespace AwsSigning.Percent

/-! ### Sets of bytes that stand for themselves -/

/-- Letters and digits of ASCII. -/
def isAlphanumeric (b : UInt8) : Bool :=
  (0x30 ≤ b && b ≤ 0x39) || (0x41 ≤ b && b ≤ 0x5A) || (0x61 ≤ b && b ≤ 0x7A)

/-- Unreserved bytes: letters, digits, `-`, `.`, `_` and `~`. -/
def isUnreserved (b : UInt8) : Bool :=
  isAlphanumeric b || b = 0x2D || b = 0x2E || b = 0x5F || b = 0x7E

/-- Bytes that stand for themselves in a path: the unreserved ones and the slash. -/
def isPathByte (b : UInt8) : Bool := isUnreserved b || b = 0x2F

/-! ### Encoding -/

/-- One byte written. -/
def encodeByte (keep : UInt8 → Bool) (b : UInt8) : List Char :=
  if keep b then [Char.ofNat b.toNat] else '%' :: Hex.pair Hex.upperDigit b

/-- Bytes written. -/
def encode (keep : UInt8 → Bool) (bytes : Bytes) : List Char := bytes.flatMap (encodeByte keep)

/-- A string written. -/
def encodeString (keep : UInt8 → Bool) (s : String) : String :=
  String.ofList (encode keep (Utf8.ofString s))

/-! ### Decoding -/

/-- The value of a byte that is a hexadecimal digit. -/
def hexValue? (b : UInt8) : Option Nat := Hex.value? (Char.ofNat b.toNat)

/-- The byte that two hexadecimal digits spell. -/
def escaped? (high low : UInt8) : Option UInt8 := do
  let h ← hexValue? high
  let l ← hexValue? low
  pure (UInt8.ofNat (h * 16 + l))

/-- Bytes read. -/
def decode : Bytes → Bytes
  | 0x25 :: high :: low :: rest =>
    match escaped? high low with
    | some b => b :: decode rest
    | none => 0x25 :: decode (high :: low :: rest)
  | b :: rest => b :: decode rest
  | [] => []

end AwsSigning.Percent
