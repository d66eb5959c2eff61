/-
AwsSigning/Signing/Config.lean

Everything that has to be settled before a request can be signed.

A *draft* may leave things open, so that several layers can fill it in one
after the other.  `Draft.build` checks that nothing is missing: a region and
a service that are not blank, a credential, and for a signature in the URL
how long it is good for.  What it gives is a `Config`.
-/
import AwsSigning.Credential
import AwsSigning.Digest.Sha256
import AwsSigning.Error
import AwsSigning.Text.Blank
import AwsSigning.Text.Quoted

namespace AwsSigning.Signing

/-! ### Choices -/

/-- How the signature is made. -/
inductive Algorithm where
  /-- With a shared secret. -/
  | shared
  /-- With a key pair; known, but there is none to be had. -/
  | asymmetric
deriving DecidableEq, Repr

/-- The algorithm in words. -/
def Algorithm.describe : Algorithm → String
  | shared => "SigV4"
  | asymmetric => "SigV4Asymmetric"

/-- Where the signature goes. -/
inductive Placement where
  /-- Into a header field. -/
  | header
  /-- Into the query, which makes the URL itself signed. -/
  | query
deriving DecidableEq, Repr

/-- The placement in words. -/
def Placement.describe : Placement → String
  | header => "Headers"
  | query => "QueryParams"

/-- What is signed in place of the payload. -/
inductive PayloadValue where
  /-- The digest of nothing. -/
  | empty
  /-- A word that says that the payload is not signed. -/
  | unsigned
  /-- A word that says that every chunk is signed on its own. -/
  | streaming
  /-- A word that says that every event is signed on its own. -/
  | events
  /-- A digest that is known already. -/
  | precomputed (text : String)
deriving DecidableEq, Repr

namespace PayloadValue

/-- The text that is signed. -/
def text : PayloadValue → String
  | empty => Sha256.hexDigestOfEmpty
  | unsigned => "UNSIGNED-PAYLOAD"
  | streaming => "STREAMING-AWS4-HMAC-SHA256-PAYLOAD"
  | events => "STREAMING-AWS4-HMAC-SHA256-EVENTS"
  | precomputed text => text

/-- The value in words. -/
def describe : PayloadValue → String
  | empty => "Empty"
  | unsigned => "UnsignedPayload"
  | streaming => "StreamingPayload"
  | events => "StreamingEvents"
  | precomputed text => "Precomputed(" ++ Text.quote text ++ ")"

end PayloadValue

/-- Whether what is signed in place of the payload is sent as well. -/
inductive PayloadHeader where
  /-- It is not sent. -/
  | absent
  /-- It is sent in a header field. -/
  | contentSha256
deriving DecidableEq, Repr

/-- The choice in words. -/
def PayloadHeader.describe : PayloadHeader → String
  | absent => "None"
  | contentSha256 => "XAmzContentSha256"

/-! ### Choices that always have a value -/

/-- How a request is signed, apart from by whom and for what. -/
structure Manner where
  algorithm : Algorithm := .shared
  placement : Placement := .header
  /-- Whether what is signed in place of the payload is sent as well. -/
  payloadHeader : PayloadHeader := .absent
  /-- Dot segments are taken out of the path first. -/
  normalizePath : Bool := true
  /-- The path is encoded as it is, although it is encoded already. -/
  encodeTwice : Bool := true
  /-- The session token is added after signing. -/
  omitToken : Bool := false
  /-- How long a signature in the query is good for. -/
  validFor : Option Duration := none
deriving DecidableEq, Repr

/-- How to sign one request. -/
structure Config where
  region : String
  service : String
  credential : Credential
  date : Instant
  payload : PayloadValue
  manner : Manner
deriving DecidableEq, Repr

/-- A config in which things may still be open. -/
structure Draft where
  region : Option String := none
  service : Option String := none
  credential : Option Credential := none
  date : Option Instant := none
  payload : Option PayloadValue := none
  manner : Manner := {}
deriving DecidableEq, Repr

/-! ### Checking -/

/-- A text that is there and not blank. -/
def required (fault : SigningFault) (text : Option String) : Except Error String :=
  match text with
  | some text => if Text.isBlankText text.toList then .error (.signing fault) else .ok text
  | none => .error (.signing fault)

/-- A signature in the query needs a validity of more than nothing. -/
def Manner.check (m : Manner) : Except Error Unit :=
  match m.placement, m.validFor with
  | .header, _ => .ok ()
  | .query, some d =>
    if d.nanoseconds > 0 then .ok () else .error (.signing .expiryMissing)
  | .query, none => .error (.signing .expiryMissing)

/-- The config that a draft makes at a point in time. -/
def Draft.build (d : Draft) (now : Instant) : Except Error Config := do
  let region ← required .blankRegion d.region
  let service ← required .blankService d.service
  let credential ← match d.credential with
    | some credential => pure credential
    | none => throw (.signing .credentialMissing)
  d.manner.check
  pure {
    region
    service
    credential
    date := d.date.getD now
    payload := d.payload.getD .unsigned
    manner := d.manner }

/-! ### Description -/

/-- The choices of a draft or config in words, around the fields that differ between the two. -/
def describeFields (name region service credential date payload : String) (m : Manner) : String :=
  Text.describeRecord name
    [("region", region), ("service", service), ("credential", credential),
     ("algorithm", m.algorithm.describe), ("date", date),
     ("signature_type", m.placement.describe), ("signed_body_value", payload),
     ("signed_body_header", m.payloadHeader.describe),
     ("normalize_uri_path", Text.describeBool m.normalizePath),
     ("use_double_uri_encode", Text.describeBool m.encodeTwice),
     ("omit_session_token", Text.describeBool m.omitToken),
     ("expires_in", Text.describeOption Duration.describe m.validFor)]

/-- The config in words, without secrets. -/
def Config.describe (c : Config) : String :=
  describeFields "SigningConfig" (Text.quote c.region) (Text.quote c.service)
    c.credential.describe c.date.describe c.payload.describe c.manner

/-- The draft in words, without secrets. -/
def Draft.describe (d : Draft) : String :=
  describeFields "SigningConfigBuilder" (Text.describeOption Text.quote d.region)
    (Text.describeOption Text.quote d.service)
    (Text.describeOption Credential.describe d.credential)
    (Text.describeOption Instant.describe d.date)
    (Text.describeOption PayloadValue.describe d.payload) d.manner

end AwsSigning.Signing
