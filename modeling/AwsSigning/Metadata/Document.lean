/-
AwsSigning/Metadata/Document.lean

The document in which the metadata service hands out credentials.

It is an object of strings, or an array of them in the order of the fields.
A field that is not there is empty, a field that is there twice is an error,
and fields of other names are passed over whatever they hold.
-/
import AwsSigning.Metadata.Json

namespace AwsSigning.Metadata

/-- What the metadata service says about the credentials of a role. -/
structure Document where
  accessKeyId : String := ""
  secretAccessKey : String := ""
  token : String := ""
  expiration : String := ""
  code : String := ""
  message : String := ""
deriving DecidableEq, Repr

namespace Document

/-! ### Fields -/

/-- The names of the fields, in order. -/
def fieldNames : List String :=
  ["AccessKeyId", "SecretAccessKey", "Token", "Expiration", "Code", "Message"]

/-- The fields read so far, by name. -/
abbrev Fields := List (String × String)

/-- The document with some fields. -/
def ofFields (fields : Fields) : Document :=
  let field name := (fields.lookup name).getD ""
  { accessKeyId := field "AccessKeyId"
    secretAccessKey := field "SecretAccessKey"
    token := field "Token"
    expiration := field "Expiration"
    code := field "Code"
    message := field "Message" }

/-! ### Reading -/

/-- One member of an object: the fields with it, and what follows it. -/
def member? (fields : Fields) (s : List Char) : Option (Fields × List Char) := do
  let (name, rest) ← Json.string? (Json.skipSpace s)
  match Json.skipSpace rest with
  | ':' :: rest =>
    if fieldNames.contains name then
      if (fields.lookup name).isSome then none
      else
        let (value, rest) ← Json.string? (Json.skipSpace rest)
        some (fields ++ [(name, value)], rest)
    else do
      let rest ← Json.skipValue? rest
      some (fields, rest)
  | _ => none

/-- The members of an object after the first, up to its end. -/
def members? : Nat → Fields → List Char → Option (Fields × List Char)
  | 0, _, _ => none
  | fuel + 1, fields, s =>
    match Json.skipSpace s with
    | '\x7d' :: rest => some (fields, rest)
    | ',' :: rest =>
      match member? fields rest with
      | some (fields, rest) => members? fuel fields rest
      | none => none
    | _ => none

/-- The items of an array after the first, up to its end; each takes the next name. -/
def items? : List String → Fields → List Char → Option (Fields × List Char)
  | [], fields, s =>
    match Json.skipSpace s with
    | ']' :: rest => some (fields, rest)
    | _ => none
  | name :: names, fields, s =>
    match Json.skipSpace s with
    | ']' :: rest => some (fields, rest)
    | ',' :: rest =>
      match Json.string? (Json.skipSpace rest) with
      | some (value, rest) => items? names (fields ++ [(name, value)]) rest
      | none => none
    | _ => none

/-- The fields of an object whose opening brace is gone. -/
def object? (s : List Char) : Option (Fields × List Char) :=
  match Json.skipSpace s with
  | '\x7d' :: rest => some ([], rest)
  | s => do
    let (fields, rest) ← member? [] s
    members? s.length fields rest

/-- The fields of an array whose opening bracket is gone. -/
def array? (s : List Char) : Option (Fields × List Char) :=
  match Json.skipSpace s with
  | ']' :: rest => some ([], rest)
  | s => items? fieldNames [] (',' :: s)

/-- The document that a whole text spells. -/
def parse? (s : String) : Option Document := do
  let (fields, rest) ← match Json.skipSpace s.toList with
    | '\x7b' :: rest => object? rest
    | '[' :: rest => array? rest
    | _ => none
  if Json.skipSpace rest = [] then some (ofFields fields) else none

end Document

end AwsSigning.Metadata
