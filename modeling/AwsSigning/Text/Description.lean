/-
AwsSigning/Text/Description.lean

How values are described to people: records with named fields, lists and
values that may be absent, all on one line.
-/

namespace AwsSigning.Text

/-- A record: its name and its fields, each with the description of its value. -/
def describeRecord (name : String) (fields : List (String × String)) : String :=
  name ++ " \x7b " ++ ", ".intercalate (fields.map fun (field, value) => field ++ ": " ++ value)
    ++ " \x7d"

/-- A list of descriptions. -/
def describeList (items : List String) : String := "[" ++ ", ".intercalate items ++ "]"

/-- A value that may be absent. -/
def describeOption (describe : α → String) : Option α → String
  | some a => "Some(" ++ describe a ++ ")"
  | none => "None"

/-- A truth value. -/
def describeBool (b : Bool) : String := if b then "true" else "false"

end AwsSigning.Text
