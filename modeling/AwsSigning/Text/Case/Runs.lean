/-
AwsSigning/Text/Case/Runs.lean

How a table of case mappings is stored.  Most letters come in rows: either
neighbours that all move by the same distance, or every second code point of
a stretch where capital and small letters alternate.  A run describes such a
row; a mapping to several letters is listed on its own.
-/

namespace AwsSigning.Text

/-- A row of code points that move by the same distance. -/
structure CaseRun where
  /-- The first code point of the row. -/
  first : Nat
  /-- The last code point of the row. -/
  last : Nat
  /-- The distance between neighbours of the row. -/
  step : Nat
  /-- How far each of them moves. -/
  shift : Int
deriving DecidableEq, Repr

/-- Where a run takes a code point, if the code point belongs to it. -/
def CaseRun.target? (run : CaseRun) (n : Nat) : Option Nat :=
  if run.first ≤ n ∧ n ≤ run.last ∧ (n - run.first) % run.step = 0 then
    some ((n : Int) + run.shift).toNat
  else none

/-- A table of case mappings. -/
structure CaseTable where
  /-- Mappings to one letter. -/
  runs : List CaseRun
  /-- Mappings to several letters. -/
  several : List (Nat × List Nat)

/-- What a table makes of a character; a character it does not list stays. -/
def CaseTable.apply (table : CaseTable) (c : Char) : List Char :=
  match table.several.lookup c.toNat with
  | some letters => letters.map Char.ofNat
  | none =>
    match table.runs.findSome? (·.target? c.toNat) with
    | some n => [Char.ofNat n]
    | none => [c]

end AwsSigning.Text
