/-
AwsSigning/Signing/Signer.lean

Signing a request.

The canonical request is hashed into the string to sign, and the string to
sign is signed with a key that is derived from the secret in four steps, so
that the key is good for one day, one region and one service only.  The
signature then goes into a header field or into the query.

A request is signed in place.  Its parts are moved out, worked on, and moved
in again; if that fails at any point, the URI and the header fields are put
back as they were (`sign`).
-/
import AwsSigning.Digest.Hmac
import AwsSigning.Signing.Canonical

namespace AwsSigning.Signing

/-! ### The signature -/

/-- The texts that lead to a signature. -/
structure Working where
  canonicalRequest : String
  scope : String
  stringToSign : String
deriving DecidableEq, Repr

/-- The texts that lead to the signature of a canonical request. -/
def working (c : Config) (r : CanonicalRequest) : Working where
  canonicalRequest := r.render
  scope := c.scope
  stringToSign :=
    "\n".intercalate
      [algorithmName, c.date.stampText, c.scope, Sha256.hexDigest (Utf8.ofString r.render)]

/-- The key for one day, one region and one service. -/
def signingKey (secret date region service : String) : Bytes :=
  [date, region, service, terminator].foldl (fun key text => Hmac.digest key (Utf8.ofString text))
    (Utf8.ofString ("AWS4" ++ secret))

/-- The signature of a text. -/
def signature (c : Config) (stringToSign : String) : String :=
  Hmac.hexDigest
    (signingKey c.credential.secretAccessKey c.date.dateText c.region c.service)
    (Utf8.ofString stringToSign)

/-! ### Where it goes -/

/-- The value of the header field that carries a signature. -/
def authorizationText (c : Config) (headers : Headers) (signature : String) : String :=
  algorithmName ++ " Credential=" ++ c.credentialScope ++ ", SignedHeaders="
    ++ signedNamesText headers ++ ", Signature=" ++ signature

/-- The header fields with a signature, and with the token if it was left out. -/
def signHeaders (c : Config) (headers : Headers) (signature : String) : Except Error Headers := do
  let value ← HeaderValue.ofString (authorizationText c headers signature)
  let headers := headers.set .authorization value.secret
  if c.manner.omitToken then showToken c.credential headers else pure headers

/-- What a signature adds to the query after it is made. -/
def signedParameters (c : Config) (signature : String) : Query :=
  ("X-Amz-Signature", signature) ::
    (if c.manner.omitToken then
      (c.credential.sessionToken.map fun token =>
        ("X-Amz-Security-Token", encodeParameter token)).toList
    else [])

/-- The request with a signature. -/
def attach (c : Config) (s : Signable) (signature : String) : Except Error Signable :=
  match c.manner.placement with
  | .query => .ok { s with query := s.query ++ signedParameters c signature }
  | .header => do pure { s with headers := ← signHeaders c s.headers signature }

/-! ### Signing in place -/

/-- A request, and what has been worked out about it. -/
structure Bench where
  request : Request
  working : Option Working := none
deriving DecidableEq

/-- An operation of the request on the bench. -/
def Bench.onRequest (op : Operation Request α) : Operation Bench α :=
  Operation.focus (·.request) (fun request bench => { bench with request }) op

/-- The request on the bench with the URI and the header fields of an earlier one. -/
def Bench.restore (before after : Bench) : Bench :=
  { after with
    request := { after.request with uri := before.request.uri, headers := before.request.headers } }

/-- The parts of a request in their canonical form. -/
def prepare (c : Config) (s : Signable) : Except Error Signable := do
  let s := { s with headers := s.headers.remove .authorization }
  let headers ← canonicalHeaders c s
  pure { s with headers, query := canonicalQuery (s.query ++ addedParameters c headers) }

/-- Sign the parts of a request and move them in. -/
def signParts (c : Config) (s : Signable) : Operation Bench String := do
  let s ← Operation.ofExcept (prepare c s)
  let canonical ← Operation.ofExcept (CanonicalRequest.of c s)
  let working := working c canonical
  modify fun bench => { bench with working := some working }
  let signature := signature c working.stringToSign
  let s ← Operation.ofExcept (attach c s signature)
  Bench.onRequest s.putBack
  pure signature

/-- Sign a request in place; the signature is handed back as well. -/
def sign (c : Config) : Operation Bench String :=
  match c.manner.algorithm with
  | .asymmetric => Operation.fail (.signing .asymmetric)
  | .shared => Operation.restoring Bench.restore do
    let parts ← Bench.onRequest Signable.take
    signParts c parts

end AwsSigning.Signing
