/-
AwsSigning/Endpoint/AccountId.lean

Whether the account of the caller takes part in finding an endpoint.
-/
import AwsSigning.Setting

namespace AwsSigning

/-- The part an account id plays. -/
inductive AccountIdMode where
  /-- It is used if there is one. -/
  | preferred
  /-- It is never used. -/
  | disabled
  /-- There has to be one. -/
  | required
deriving DecidableEq, Repr

namespace AccountIdMode

/-- The word for a mode. -/
def word : AccountIdMode → String
  | preferred => "preferred"
  | disabled => "disabled"
  | required => "required"

/-- The name of a mode in descriptions. -/
def describe : AccountIdMode → String
  | preferred => "Preferred"
  | disabled => "Disabled"
  | required => "Required"

/-- The mode with a word. -/
def ofWord? (word : String) : Option AccountIdMode :=
  if word = "preferred" then some preferred
  else if word = "disabled" then some disabled
  else if word = "required" then some required
  else none

/-- The mode that a text spells. -/
def read (text : String) : Except Error AccountIdMode :=
  match ofWord? (Setting.plain text) with
  | some mode => .ok mode
  | none => .error (.setting (.accountIdMode text))

/-- The account id to be used. -/
def choose (mode : AccountIdMode) (accountId : Option String) : Except Error (Option String) :=
  match mode, accountId with
  | preferred, accountId => .ok accountId
  | disabled, _ => .ok none
  | required, some accountId => .ok (some accountId)
  | required, none => .error (.setting .accountIdMissing)

end AccountIdMode

end AwsSigning
