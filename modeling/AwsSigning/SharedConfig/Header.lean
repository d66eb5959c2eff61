/-
AwsSigning/SharedConfig/Header.lean

Headers of sections.

In a config file a header is `[default]`, `[profile name]`, `[services name]`
or `[sso-session name]`; in a credentials file it is the bare name of a
profile.  A header that is none of these is not an error: its section is
ignored, with a warning.
-/
import AwsSigning.SharedConfig.Line
import AwsSigning.Operation

namespace AwsSigning.SharedConfig

/-! ### Kinds -/

/-- The two shared files. -/
inductive FileKind where
  | config
  | credentials
deriving DecidableEq, Repr

/-- What a section describes. -/
inductive SectionKind where
  | profile
  | services
  | ssoSession
deriving DecidableEq, Repr

/-- The kind that the first word of a header names. -/
def SectionKind.ofWord? (word : List Char) : Option SectionKind :=
  if word = "profile".toList then some .profile
  else if word = "services".toList then some .services
  else if word = "sso-session".toList then some .ssoSession
  else none

/-- The header of a section. -/
structure Header where
  kind : SectionKind
  name : String
  /-- The name came with a word for its kind. -/
  prefixed : Bool
deriving DecidableEq, Repr

/-! ### Identifiers -/

/-- A character of names and keys. -/
def isIdentifierChar (c : Char) : Bool := c.isAlphanum || "_-/.%@:+".toList.contains c

/-- A name or key. -/
def isIdentifier (s : List Char) : Bool := s ≠ [] && s.all isIdentifierChar

/-! ### Reading a header -/

/-- Reading with warnings, which are kept when reading fails. -/
abbrev Reader := Operation (List String)

/-- One more warning. -/
def warn (text : String) : Reader Unit := modify (· ++ [text])

/-- The end of a warning that names a line. -/
def atLine (number : Nat) : String := " (line " ++ toString number ++ ")"

/-- What stands between the brackets of a header, trimmed. -/
def bracketed (line : Line) : Except Error (List Char) :=
  match Text.splitLast? ']' line.first with
  | none => .error (.config .openHeader line.number)
  | some (before, after) =>
    let after := Text.trim after
    if after = [] || isComment after then .ok (Text.trim (before.drop 1))
    else .error (.config .afterHeader line.number)

/-- The header of a config file with some words between its brackets. -/
def configHeader (inner : List Char) (number : Nat) : Reader (Option Header) :=
  match Text.words inner with
  | [name] =>
    if name = "default".toList then pure (some ⟨.profile, "default", false⟩) else unprefixed
  | [word, name] =>
    match SectionKind.ofWord? word with
    | some kind => pure (some ⟨kind, String.ofList name, true⟩)
    | none => do
      warn ("Ignoring section with unknown kind '" ++ String.ofList word ++ "'" ++ atLine number)
      pure none
  | _ => unprefixed
where
  unprefixed : Reader (Option Header) := do
    warn ("Ignoring profile '" ++ String.ofList inner ++ "' without 'profile' prefix"
      ++ atLine number)
    pure none

/-- The header in a line, or none if its section is to be ignored. -/
def readHeader (kind : FileKind) (line : Line) : Reader (Option Header) := do
  let inner ← Operation.ofExcept (bracketed line)
  let header? ← match kind with
    | .credentials => pure (some ⟨.profile, String.ofList inner, false⟩)
    | .config => configHeader inner line.number
  match header? with
  | none => pure none
  | some header =>
    if isIdentifier header.name.toList then pure (some header)
    else
      warn ("Ignoring invalid profile '" ++ header.name ++ "'" ++ atLine line.number)
      pure none

end AwsSigning.SharedConfig
