/-
AwsSigning/Signing/Context.lean

What is said about one request besides the request itself.
-/
import AwsSigning.Signing.Config
import AwsSigning.Table

namespace AwsSigning.Signing

/-- What is said about one request besides the request itself.  What is there counts more than
what a draft says. -/
structure RequestContext where
  region : Option String := none
  service : Option String := none
  /-- The time of signing, in place of the clock. -/
  date : Option Instant := none
  /-- The payload is not signed. -/
  unsignedPayload : Bool := false
  /-- What is signed in place of the payload. -/
  payload : Option PayloadValue := none
  /-- Whether what is signed in place of the payload is sent as well. -/
  payloadHeader : Option PayloadHeader := none
  /-- The account of the caller. -/
  accountId : Option String := none
  /-- The signature that the request got last. -/
  signature : Option String := none
  /-- What other layers attached. -/
  extensions : Table String := []
deriving DecidableEq, Repr

namespace RequestContext

/-- What another layer attached under a key. -/
def extension? (c : RequestContext) (key : String) : Option String := c.extensions.get? key

/-- A draft with what a context says about region, service, time and header. -/
def refine (c : RequestContext) (d : Draft) (now : Instant) : Draft where
  region := c.region <|> d.region
  service := c.service <|> d.service
  credential := d.credential
  date := some (c.date.getD now)
  payload := d.payload
  manner :=
    { d.manner with payloadHeader := c.payloadHeader.getD d.manner.payloadHeader }

end RequestContext

end AwsSigning.Signing
