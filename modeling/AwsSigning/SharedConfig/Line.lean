/-
AwsSigning/SharedConfig/Line.lean

From physical lines to logical ones.

A physical line is a header if it starts with `[`, a continuation if it
starts with white space, and a property otherwise; blank lines and lines that
start with `#` or `;` are left out.  A continuation is folded onto the logical
line before it.  Folding goes wrong in three ways: there is no header yet,
there is no property yet under the last header, or the property has a blank
value, so that its continuations must be sub-properties, and one of them has
no key.
-/
import AwsSigning.Error
import AwsSigning.Text.Blank

namespace AwsSigning.SharedConfig

/-! ### Physical lines -/

/-- A line that is left out because of its first character. -/
def isComment (line : List Char) : Bool :=
  match line with
  | c :: _ => c = '#' || c = ';'
  | [] => false

/-- A line that is left out. -/
def isSkipped (line : List Char) : Bool := Text.isBlankText line || isComment line

/-- A line that opens a section. -/
def isHeader (line : List Char) : Bool :=
  match line with
  | c :: _ => c = '['
  | [] => false

/-- A line that continues the one before it. -/
def isContinuation (line : List Char) : Bool :=
  match line with
  | c :: _ => Text.isBlank c
  | [] => false

/-- A line fit to stand in a block of sub-properties: it has an `=`, but not as its first sign. -/
def isSubProperty (line : List Char) : Bool :=
  line.contains '=' && (Text.trim line).head? ≠ some '='

/-! ### Logical lines -/

/-- A line together with the lines folded onto it. -/
structure Line where
  /-- The number of its first physical line, from 1. -/
  number : Nat
  /-- The first physical line as it stands. -/
  first : List Char
  /-- The lines folded onto it, trimmed. -/
  folded : List (List Char) := []
deriving DecidableEq, Repr

namespace Line

/-- The lines one below the other. -/
def content (l : Line) : List Char := List.intercalate ['\n'] (l.first :: l.folded)

/-- What stands behind the first `=` is blank. -/
def hasBlankValue (l : Line) : Bool :=
  match Text.splitFirst? '=' l.content with
  | some (_, value) => Text.isBlankText value
  | none => false

/-- The line with one more line folded onto it. -/
def fold (l : Line) (raw : List Char) : Line := { l with folded := l.folded ++ [Text.trim raw] }

end Line

/-! ### Folding -/

/-- How far folding has come. -/
structure Folding where
  /-- The logical lines so far, the last one first. -/
  lines : List Line := []
  /-- There has been a header. -/
  inSection : Bool := false
  /-- There has been a property under the last header. -/
  inProperty : Bool := false
  /-- Continuations of the last line must be sub-properties. -/
  inBlock : Bool := false
deriving DecidableEq, Repr

/-- A continuation folded onto the last line. -/
def Folding.continueWith (state : Folding) (number : Nat) (raw : List Char) :
    Except Error Folding :=
  if !state.inSection then .error (.config .expectedSection number)
  else if !state.inProperty then .error (.config .expectedProperty number)
  else match state.lines with
    | [] => .error (.config .expectedProperty number)
    | last :: rest =>
      let inBlock := state.inBlock || last.hasBlankValue
      if inBlock && !isSubProperty raw then .error (.config .expectedSubProperty number)
      else .ok { state with lines := last.fold raw :: rest, inBlock }

/-- One more physical line. -/
def Folding.step (state : Folding) (number : Nat) (raw : List Char) : Except Error Folding :=
  if isSkipped raw then .ok state
  else if isHeader raw then
    .ok { lines := { number, first := raw } :: state.lines, inSection := true }
  else if isContinuation raw then state.continueWith number raw
  else
    .ok { state with
      lines := { number, first := raw } :: state.lines
      inProperty := state.inProperty || raw.contains '='
      inBlock := false }

/-- Physical lines from a number on. -/
def Folding.run : Folding → Nat → List (List Char) → Except Error Folding
  | state, _, [] => .ok state
  | state, number, raw :: rest =>
    match state.step number raw with
    | .ok state => state.run (number + 1) rest
    | .error e => .error e

/-- The logical lines of a text. -/
def foldLines (text : List Char) : Except Error (List Line) :=
  (Folding.run {} 1 (Text.lines text)).map fun state => state.lines.reverse

end AwsSigning.SharedConfig
