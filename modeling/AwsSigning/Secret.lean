/-
AwsSigning/Secret.lean

Secrets in descriptions.  A description tells secrets apart without giving
them away: of a text of at least twelve bytes it shows the first and the last
three bytes, and nothing of a shorter one.  Where three bytes would cut a
character in two, it shows nothing either.
-/

namespace AwsSigning.Secret

/-- The characters that make up exactly the first `n` bytes, if no character straddles the end. -/
def takeBytes? : Nat → List Char → Option (List Char)
  | 0, _ => some []
  | _ + 1, [] => none
  | n + 1, c :: rest =>
    if c.utf8Size ≤ n + 1 then (takeBytes? (n + 1 - c.utf8Size) rest).map (c :: ·) else none

/-- The characters that make up exactly the last `n` bytes. -/
def takeLastBytes? (n : Nat) (s : List Char) : Option (List Char) :=
  (takeBytes? n s.reverse).map List.reverse

/-- How many bytes are shown at either end. -/
def shownBytes : Nat := 3

/-- The fewest bytes of which any are shown. -/
def leastBytes : Nat := 12

/-- What is shown of a secret. -/
def redact (s : String) : String :=
  if s.utf8ByteSize = 0 then "EMPTY"
  else if s.utf8ByteSize < leastBytes then "***"
  else match takeBytes? shownBytes s.toList, takeLastBytes? shownBytes s.toList with
    | some front, some back => String.ofList front ++ "***" ++ String.ofList back
    | _, _ => "***"

/-- What is shown of a secret that may be absent. -/
def redactOption (s : Option String) : String := redact (s.getD "")

end AwsSigning.Secret
