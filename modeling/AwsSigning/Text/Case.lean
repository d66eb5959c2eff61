/-
AwsSigning/Text/Case.lean

Whole texts in small or capital letters.

Characters are mapped one by one, with one exception: a capital sigma at the
end of a word becomes a final sigma.  It stands at the end of a word when a
letter with a case precedes it and none follows, where characters such as
accents and apostrophes are passed over on either side.
-/
import AwsSigning.Text.Blank
import AwsSigning.Text.Case.Cased
import AwsSigning.Text.Case.Lower
import AwsSigning.Text.Case.Upper

namespace AwsSigning.Text

/-! ### Characters -/

/-- The small form of a character, apart from the place in a word. -/
def lowerChar (c : Char) : List Char :=
  if c.toNat < 0x80 then [c.toLower] else lowerTable.apply c

/-- The capital form of a character. -/
def upperChar (c : Char) : List Char :=
  if c.toNat < 0x80 then [c.toUpper] else upperTable.apply c

/-- A letter that has a case. -/
def isCased (c : Char) : Bool := inRanges casedRanges c.toNat

/-- A character passed over in the search for a letter with a case. -/
def isCaseIgnorable (c : Char) : Bool := inRanges caseIgnorableRanges c.toNat

/-- The first character that is not passed over is a letter with a case. -/
def casedAhead (s : List Char) : Bool :=
  match s.dropWhile isCaseIgnorable with
  | c :: _ => isCased c
  | [] => false

/-! ### Texts -/

/-- The rest of a text in small letters, given what stands before it in reverse. -/
def lowerAfter (before : List Char) : List Char → List Char
  | [] => []
  | c :: rest =>
    let small :=
      if c = 'Σ' then
        if casedAhead before && !casedAhead rest then ['ς'] else ['σ']
      else lowerChar c
    small ++ lowerAfter (c :: before) rest

/-- A text in small letters. -/
def lower (s : List Char) : List Char := lowerAfter [] s

/-- A text in capital letters. -/
def upper (s : List Char) : List Char := s.flatMap upperChar

/-- A text whose first character is in its capital form. -/
def capitalize : List Char → List Char
  | [] => []
  | c :: rest => upperChar c ++ rest

end AwsSigning.Text
