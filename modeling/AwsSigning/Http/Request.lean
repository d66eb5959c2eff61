/-
AwsSigning/Http/Request.lean

Requests and responses.

A request here is what stands before its payload: method, URI, version,
header fields, and values that other layers attached and that are only
handed on.  `Request.build` checks the header fields one after the other, then
the method, then the URI; the first fault is the answer.
-/
import AwsSigning.Http.Header
import AwsSigning.Http.Uri

namespace AwsSigning

/-! ### Methods -/

/-- The method of a request. -/
structure Method where
  /-- The method; letters keep their kind. -/
  text : String
  /-- It holds nothing but token characters, and at least one. -/
  legal : (text.toList.all isTokenChar && !text.toList.isEmpty) = true
deriving DecidableEq

namespace Method

/-- The method that a text spells. -/
def ofString (s : String) : Except Error Method :=
  if h : (s.toList.all isTokenChar && !s.toList.isEmpty) = true then .ok ⟨s, h⟩
  else .error (.http .method)

def get : Method := ⟨"GET", by decide⟩
def put : Method := ⟨"PUT", by decide⟩

end Method

/-! ### Requests -/

/-- The version of the protocol. -/
inductive HttpVersion where
  | http09
  | http10
  | http11
  | http2
  | http3
deriving DecidableEq, Repr

/-- A request without its payload. -/
structure Request where
  /-- What is to be done. -/
  method : Method
  /-- Where the request goes. -/
  uri : Uri
  /-- The header fields. -/
  headers : Headers
  /-- The version of the protocol. -/
  version : HttpVersion := .http11
  /-- What other layers attached. -/
  extensions : List (String × String) := []
deriving DecidableEq

namespace Request

/-- The request for the root of a server that is known already. -/
def root : Request := { method := .get, uri := .root, headers := [] }

/-- A header field as it is written: name, value, and whether it must not be shown. -/
structure Field where
  name : String
  value : Bytes
  sensitive : Bool
deriving DecidableEq, Repr

/-- The value of a written field. -/
def Field.toValue (f : Field) : Except Error HeaderValue := do
  let value ← HeaderValue.ofBytes f.value
  pure (if f.sensitive then value.secret else value)

/-- The name and the value of a written field; the name is checked first. -/
def Field.read (f : Field) : Except Error (HeaderName × HeaderValue) := do
  pure (← HeaderName.ofString f.name, ← f.toValue)

/-- The request with written parts. -/
def build (method uri : String) (fields : List Field) : Except Error Request := do
  let headers ← fields.mapM Field.read
  let method ← Method.ofString method
  let uri ← (Uri.parse uri).mapError fun fault => .http (.uri fault)
  pure { method, uri, headers }

end Request

/-! ### Messages -/

/-- A request with its payload. -/
structure Outgoing where
  head : Request
  payload : Bytes
deriving DecidableEq

/-- What comes back. -/
structure Response where
  status : Status
  payload : Bytes
deriving DecidableEq, Repr

/-- The payload as text; what is no text becomes U+FFFD. -/
def Response.text (r : Response) : String := Utf8.toStringLossy r.payload

end AwsSigning
