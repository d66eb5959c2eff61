/-
AwsSigning/Text/Quoted.lean

Text as it is shown in descriptions: in double quotes, with every character
that would not be seen, or would be mistaken, written as an escape.

A quote and a backslash get a backslash; tab, line feed, carriage return and
NUL have letters of their own; combining and unprintable characters become
`\u{..}` with the fewest digits.  All other characters stand for themselves.
-/
import AwsSigning.Text.Blank
import AwsSigning.Digest.Hex
import AwsSigning.Text.Quoted.Extending
import AwsSigning.Text.Quoted.Unprintable

namespace AwsSigning.Text

/-! ### Characters -/

/-- A character with a glyph that stands on its own. -/
def isShown (c : Char) : Bool :=
  if c.toNat < 0x7F then 0x20 ≤ c.toNat
  else !inRanges extendingRanges c.toNat && !inRanges unprintableRanges c.toNat
    && !inRanges fillerRanges c.toNat

/-- The hexadecimal digits of a number, without leading zeros. -/
def hexDigits (n : Nat) : List Char := Nat.toDigits 16 n

/-- A character inside quotes. -/
def quoteChar (c : Char) : List Char :=
  if c = '"' then ['\\', '"']
  else if c = '\\' then ['\\', '\\']
  else if c = '\n' then ['\\', 'n']
  else if c = '\r' then ['\\', 'r']
  else if c = '\t' then ['\\', 't']
  else if c = '\x00' then ['\\', '0']
  else if isShown c then [c]
  else ['\\', 'u', '\x7b'] ++ hexDigits c.toNat ++ ['\x7d']

/-! ### Texts -/

/-- A text in quotes. -/
def quote (s : String) : String :=
  String.ofList ('"' :: s.toList.flatMap quoteChar ++ ['"'])

end AwsSigning.Text
