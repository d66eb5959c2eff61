/-
AwsSigning/Digest/Hex.lean

Bytes written as pairs of hexadecimal digits, in small or capital letters.
-/
import AwsSigning.Text.Utf8

namespace AwsSigning.Hex

/-- A digit in small letters. -/
def lowerDigit (n : Nat) : Char :=
  if n < 10 then Char.ofNat (48 + n) else Char.ofNat (87 + n)

/-- A digit in capital letters. -/
def upperDigit (n : Nat) : Char :=
  if n < 10 then Char.ofNat (48 + n) else Char.ofNat (55 + n)

/-- The two digits of a byte, high one first. -/
def pair (digit : Nat → Char) (b : UInt8) : List Char :=
  [digit (b.toNat / 16), digit (b.toNat % 16)]

/-- The value of a digit in either kind of letters. -/
def value? (c : Char) : Option Nat :=
  if '0' ≤ c ∧ c ≤ '9' then some (c.toNat - 48)
  else if 'a' ≤ c ∧ c ≤ 'f' then some (c.toNat - 87)
  else if 'A' ≤ c ∧ c ≤ 'F' then some (c.toNat - 55)
  else none

/-- Bytes in small letters. -/
def encode (bytes : Bytes) : String := String.ofList (bytes.flatMap (pair lowerDigit))

/-- The bytes that an even number of hexadecimal digits spells. -/
def decode? : List Char → Option Bytes
  | [] => some []
  | high :: low :: rest => do
    let h ← value? high
    let l ← value? low
    pure (UInt8.ofNat (h * 16 + l) :: (← decode? rest))
  | [_] => none

end AwsSigning.Hex
