/-
AwsSigning/Credential.lean

Credentials: a key pair, perhaps with a token and an expiry.

A credential is good for signing if both keys are there and it does not
expire within the next two minutes.  Descriptions show next to nothing of it.
-/
import AwsSigning.Secret
import AwsSigning.Text.Description
import AwsSigning.Time.Calendar

namespace AwsSigning

/-- What requests are signed with. -/
structure Credential where
  /-- Names the key pair. -/
  accessKeyId : String
  /-- The secret of the key pair. -/
  secretAccessKey : String
  /-- Goes along with temporary key pairs. -/
  sessionToken : Option String := none
  /-- When the key pair stops working. -/
  expiry : Option Instant := none
deriving DecidableEq, Repr

namespace Credential

/-- How long a credential has to last to be used. -/
def margin : Duration := .ofMinutes 2

/-- The credential is complete and not about to expire. -/
def isValid (c : Credential) (now : Instant) : Bool :=
  c.accessKeyId ≠ "" && c.secretAccessKey ≠ "" &&
    match c.expiry with
    | some expiry => (now.add margin).before expiry
    | none => true

/-- The credential in words, without its secrets. -/
def describe (c : Credential) : String :=
  Text.describeRecord "Credential"
    [("access_key_id", Secret.redact c.accessKeyId),
     ("secret_access_key", Secret.redact c.secretAccessKey),
     ("session_token", Secret.redactOption c.sessionToken),
     ("expires_in", Text.describeOption Instant.describe c.expiry)]

end Credential

end AwsSigning
