/-
AwsSigning/SharedConfig/Section.lean

Sections of a configuration file: a name and properties in the order in
which they were first defined.

A property with a blank value of its own may hold a block of *sub-properties*,
one to a line.  They are kept as the lines they were written in and read on
demand: each line is split at its first `=`, and what stands on either side
is trimmed.
-/
import AwsSigning.Table
import AwsSigning.Text.Blank

namespace AwsSigning

/-- A named set of properties. -/
structure Section where
  /-- The name in the header. -/
  name : String
  /-- The properties, in order of first definition. -/
  properties : Table String := []
deriving DecidableEq, Repr, Inhabited

namespace Section

/-! ### Properties -/

/-- The value of a property. -/
def get? (s : Section) (key : String) : Option String := s.properties.get? key

/-- The section with a property defined; an earlier value is replaced in place. -/
def set (s : Section) (key value : String) : Section :=
  { s with properties := s.properties.set key value }

/-- There are no properties. -/
def isEmpty (s : Section) : Bool := s.properties.isEmpty

/-- The section with the properties of another one written over it. -/
def overlay (s other : Section) : Section :=
  { s with properties := s.properties.setAll other.properties }

/-! ### Sub-properties -/

/-- The sub-property written in a line, if it has a key. -/
def subPropertyOfLine? (line : List Char) : Option (String × String) :=
  match Text.splitFirst? '=' line with
  | none => none
  | some (key, value) =>
    if Text.trim key = [] then none
    else some (String.ofList (Text.trim key), String.ofList (Text.trim value))

/-- All sub-properties of a property, in order. -/
def subProperties (s : Section) (key : String) : List (String × String) :=
  match s.get? key with
  | none => []
  | some value => (Text.lines value.toList).filterMap subPropertyOfLine?

/-- The value of a sub-property; the last definition counts. -/
def subProperty? (s : Section) (key subKey : String) : Option String :=
  (s.subProperties key).reverse.lookup subKey

end Section

end AwsSigning
