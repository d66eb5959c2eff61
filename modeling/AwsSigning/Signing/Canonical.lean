/-
AwsSigning/Signing/Canonical.lean

The canonical request: the one text that stands for a request.

Requests that mean the same to a server have one canonical form.  Header
values are normalized, header names and parameters are sorted, names and
values of the query are percent-encoded, and fields that others may change on
the way take no part.  What the signature adds to the request is part of the
form, except for the signature itself.

`CanonicalRequest` keeps the parts of the form, and `CanonicalRequest.render`
writes them.
-/
import AwsSigning.Signing.Path
import AwsSigning.Signing.Signable
import AwsSigning.Time.Calendar

namespace AwsSigning.Signing

/-! ### Scope -/

/-- The name of the algorithm. -/
def algorithmName : String := "AWS4-HMAC-SHA256"

/-- The last part of a scope, and the last text that a key is derived with. -/
def terminator : String := "aws4_request"

/-- What a signature is good for: one day, one region, one service. -/
def Config.scope (c : Config) : String :=
  c.date.dateText ++ "/" ++ c.region ++ "/" ++ c.service ++ "/" ++ terminator

/-- The access key and what it is used for. -/
def Config.credentialScope (c : Config) : String :=
  c.credential.accessKeyId ++ "/" ++ c.scope

/-! ### Header fields -/

/-- Header fields that others may change on the way; they are never signed. -/
def unsignedNames : List HeaderName := [.authorization, .userAgent, .amznTraceId, .expect]

/-- The names of the header fields that are signed, in order. -/
def signedNames (headers : Headers) : List HeaderName :=
  headers.names.filter fun name => !unsignedNames.contains name

/-- The names of the header fields that are signed, as one text. -/
def signedNamesText (headers : Headers) : String :=
  ";".intercalate ((signedNames headers).map (·.text))

/-- The fields with a text as the only value under a name. -/
def setText (headers : Headers) (name : HeaderName) (text : String) : Except Error Headers := do
  pure (headers.set name (← HeaderValue.ofString text))

/-- The fields with a session token, which must not be shown. -/
def setToken (headers : Headers) (token : String) : Except Error Headers := do
  pure (headers.set .amzSecurityToken (← HeaderValue.ofString token).secret)

/-- The fields with the server, if they do not name it. -/
def nameHost (authority : String) (headers : Headers) : Except Error Headers :=
  if headers.has .host then .ok headers else setText headers .host authority

/-- The fields with the token of a credential, if it has one. -/
def showToken (c : Credential) (headers : Headers) : Except Error Headers :=
  match c.sessionToken with
  | some token => setToken headers token
  | none => .ok headers

/-- The fields with the time and, unless it is omitted, the token. -/
def showTime (c : Config) (headers : Headers) : Except Error Headers :=
  match c.manner.placement with
  | .query => .ok headers
  | .header => do
    let headers ← setText headers .amzDate c.date.stampText
    if c.manner.omitToken then pure headers else showToken c.credential headers

/-- The fields with what is signed in place of the payload, if it is to be sent. -/
def showPayload (c : Config) (headers : Headers) : Except Error Headers :=
  match c.manner.payloadHeader with
  | .absent => .ok headers
  | .contentSha256 => setText headers .amzContentSha256 c.payload.text

/-- The header fields of a request as they are signed and sent. -/
def canonicalHeaders (c : Config) (s : Signable) : Except Error Headers := do
  let headers ← s.headers.collapsed
  let headers ← nameHost s.authority headers
  let headers ← showTime c headers
  showPayload c headers

/-! ### The query -/

/-- The parameters that a signature in the query comes with. -/
def signatureParameters (c : Config) (headers : Headers) (validFor : Duration) : Query :=
  [("X-Amz-Algorithm", algorithmName), ("X-Amz-Credential", c.credentialScope),
   ("X-Amz-Date", c.date.stampText), ("X-Amz-Expires", toString validFor.seconds),
   ("X-Amz-SignedHeaders", signedNamesText headers)]
    ++ (if c.manner.omitToken then []
        else (c.credential.sessionToken.map fun token => ("X-Amz-Security-Token", token)).toList)

/-- What a signature adds to the query before it is made. -/
def addedParameters (c : Config) (headers : Headers) : Query :=
  match c.manner.placement, c.manner.validFor with
  | .query, some validFor => signatureParameters c headers validFor
  | _, _ => []

/-- A name or value of the query, encoded. -/
def encodeParameter (s : String) : String := Percent.encodeString Percent.isUnreserved s

/-- Parameters are ordered by name, and by value under one name. -/
def parameterAtMost (a b : String × String) : Bool :=
  decide (a.1 < b.1) || (a.1 = b.1 && decide (a.2 ≤ b.2))

/-- Parameters encoded and sorted. -/
def canonicalQuery (query : Query) : Query :=
  (query.map fun (name, value) => (encodeParameter name, encodeParameter value)).mergeSort
    parameterAtMost

/-! ### The canonical request -/

/-- The form of a request that is signed. -/
structure CanonicalRequest where
  method : String
  path : String
  /-- Encoded and sorted. -/
  query : Query
  /-- Names with the texts of their values, sorted by name. -/
  fields : List (String × List String)
  /-- What is signed in place of the payload. -/
  payload : String
deriving DecidableEq, Repr

namespace CanonicalRequest

/-- The text of a value under a name. -/
def valueText (name : HeaderName) (value : HeaderValue) : Except Error String :=
  value.text.mapError fun _ =>
    (Error.signing .headerNotVisible).causedOutside.within ("header: " ++ name.text)

/-- One header field. -/
def field (headers : Headers) (name : HeaderName) : Except Error (String × List String) := do
  pure (name.text, ← (headers.values name).mapM (valueText name))

/-- The form of a request whose header fields and query are canonical already. -/
def of (c : Config) (s : Signable) : Except Error CanonicalRequest := do
  let path ← canonicalPath c.manner s.path
  let fields ← (signedNames s.headers).mapM (field s.headers)
  pure { method := s.method.text, path, query := s.query, fields, payload := c.payload.text }

/-- One header field written. -/
def renderField (field : String × List String) : String :=
  field.1 ++ ":" ++ ",".intercalate field.2 ++ "\n"

/-- One parameter written. -/
def renderParameter (parameter : String × String) : String := parameter.1 ++ "=" ++ parameter.2

/-- The canonical request as one text. -/
def render (r : CanonicalRequest) : String :=
  r.method ++ "\n" ++ r.path ++ "\n" ++ "&".intercalate (r.query.map renderParameter) ++ "\n"
    ++ String.join (r.fields.map renderField) ++ "\n"
    ++ ";".intercalate (r.fields.map (·.1)) ++ "\n" ++ r.payload

end CanonicalRequest

end AwsSigning.Signing
