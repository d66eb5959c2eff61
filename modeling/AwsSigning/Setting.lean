/-
AwsSigning/Setting.lean

Settings: values that may come from several places.

A setting is looked up as a property, then as an environment variable, then
under its key in a profile.  The first place that has a text decides: a text
that cannot be read is a failure that names its place, and never a reason to
look further.  Only if no place has a text does the default count.

A setting also has a form for one service, with names of its own that are
made from the name of the service; that form has no default.
-/
import AwsSigning.Platform
import AwsSigning.SharedConfig.Section
import AwsSigning.Text.Case
import AwsSigning.Text.Quoted

namespace AwsSigning

/-! ### Names of services -/

namespace ServiceName

/-- The name with each space replaced by an underscore. -/
def underscored (s : List Char) : List Char :=
  (Text.trim s).map fun c => if c = ' ' then '_' else c

/-- The end of variables for one service, such as `S3_CONTROL`. -/
def forVariable (serviceId : String) : String :=
  String.ofList (Text.upper (underscored serviceId.toList))

/-- The end of properties for one service, such as `S3Control`. -/
def forProperty (serviceId : String) : String :=
  String.ofList ((Text.words serviceId.toList).flatMap Text.capitalize)

/-- The key of a service in a services section, such as `s3_control`. -/
def forSection (serviceId : String) : String :=
  String.ofList (Text.lower (underscored serviceId.toList))

end ServiceName

/-! ### Settings -/

/-- A value of type `α` that may come from several places. -/
structure Setting (α : Type) where
  /-- The environment variable. -/
  envVariable : String
  /-- The property. -/
  property : String
  /-- The key in a profile, if the value may come from there. -/
  profileKey : Option String
  /-- What the value is if no place has one. -/
  default : Option α
  /-- How a text is read. -/
  read : String → Except Error α

namespace Setting

/-- A text and the place where it was found. -/
abbrev Found := Option (String × String)

/-- The first of several places that has a text. -/
def firstOf (places : List Found) : Found := places.findSome? id

/-- What is found under a property. -/
def inProperty (p : Platform) (name : String) : Found :=
  (p.property? name).map (·, "property: " ++ name)

/-- What is found under an environment variable. -/
def inVariable (p : Platform) (name : String) : Found :=
  (p.envVariable? name).map (·, "env: " ++ name)

/-- The value that a found text spells; a failure names the place. -/
def readFound (s : Setting α) : Found → Except Error (Option α)
  | some (text, place) =>
    match s.read text with
    | .ok a => .ok (some a)
    | .error e => .error (e.within place)
  | none => .ok none

/-- What is found under the key of the setting in a profile. -/
def inProfile (s : Setting α) (profile? : Option Section) : Found := do
  let key ← s.profileKey
  let profile ← profile?
  let text ← profile.get? key
  pure (text, "profile " ++ profile.name ++ ": " ++ key)

/-- The text that decides. -/
def find (s : Setting α) (p : Platform) (profile? : Option Section) : Found :=
  firstOf [inProperty p s.property, inVariable p s.envVariable, s.inProfile profile?]

/-- The value of the setting. -/
def resolve (s : Setting α) (p : Platform) (profile? : Option Section) :
    Except Error (Option α) :=
  match s.find p profile? with
  | some found => s.readFound (some found)
  | none => .ok s.default

/-- The value of the setting as far as properties and variables go. -/
def resolveFromProcess (s : Setting α) (p : Platform) : Except Error (Option α) :=
  s.resolve p none

/-- What is found under the key of the setting in the block of a service. -/
def inServices (s : Setting α) (serviceId : String) (services? : Option Section) : Found := do
  let key ← s.profileKey
  let services ← services?
  let serviceKey := ServiceName.forSection serviceId
  let text ← services.subProperty? serviceKey key
  pure (text, "services " ++ services.name ++ ": " ++ serviceKey ++ "." ++ key)

/-- The property of the setting for one service. -/
def serviceProperty (s : Setting α) (serviceId : String) : String :=
  s.property ++ ServiceName.forProperty serviceId

/-- The environment variable of the setting for one service. -/
def serviceVariable (s : Setting α) (serviceId : String) : String :=
  s.envVariable ++ "_" ++ ServiceName.forVariable serviceId

/-- The value of the setting for one service. -/
def resolveForService (s : Setting α) (p : Platform) (serviceId : String)
    (services? : Option Section) : Except Error (Option α) :=
  s.readFound <| firstOf
    [inProperty p (s.serviceProperty serviceId), inVariable p (s.serviceVariable serviceId),
     s.inServices serviceId services?]

/-- The names of a setting. -/
def describe (s : Setting α) : String :=
  Text.describeRecord "Setting"
    [("env", Text.quote s.envVariable), ("property", Text.quote s.property),
     ("profile_key", Text.describeOption Text.quote s.profileKey)]

end Setting

/-! ### Reading texts -/

namespace Setting

/-- A text without white space at its ends and in small letters. -/
def plain (text : String) : String := String.ofList (Text.lower (Text.trim text.toList))

/-- The text itself. -/
def readText (text : String) : Except Error String := .ok text

/-- `true` or `false`, in any letters. -/
def readBool (text : String) : Except Error Bool :=
  if plain text = "true" then .ok true
  else if plain text = "false" then .ok false
  else .error (.setting (.notBoolean text))

end Setting

end AwsSigning
