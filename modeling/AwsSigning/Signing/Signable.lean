/-
AwsSigning/Signing/Signable.lean

The parts of a request that take part in signing.

Signing works on a copy with its path and query apart.  `Signable.take` moves
the URI and the header fields out of a request, and `Signable.putBack` moves
them in again.  Either may fail half-way and then leaves the request as far
as it got; the version and what other layers attached stay where they are all
the time.
-/
import AwsSigning.Http.Query
import AwsSigning.Http.Request
import AwsSigning.Operation

namespace AwsSigning.Signing

/-- The parts of a request that take part in signing. -/
structure Signable where
  method : Method
  scheme : String
  authority : String
  /-- The path as it is sent. -/
  path : String
  /-- Names and values of the query. -/
  query : Query
  headers : Headers
deriving DecidableEq

namespace Signable

/-- The parts that a URI and the rest of a request make; a signature needs to know the server. -/
def ofUri (uri : Uri) (method : Method) (headers : Headers) : Except Error Signable :=
  let target := uri.target.getD .root
  match uri.authority with
  | none => .error (.signing .noAuthority)
  | some authority => .ok {
      method
      scheme := uri.scheme.getD "http"
      authority
      path := target.path
      query := (target.query.map Query.decode).getD []
      headers }

/-- The parts moved out of a request.  The URI goes first, and the header fields only if there is
a server. -/
def take : Operation Request Signable := do
  let request ← get
  set { request with uri := .root }
  let parts ← Operation.ofExcept (ofUri request.uri request.method request.headers)
  modify fun request => { request with headers := [] }
  pure parts

/-- Path and query as they are sent; the query is encoded already. -/
def wire (s : Signable) : String :=
  if s.query = [] then s.path else s.path ++ "?" ++ s.query.render "=" "&"

/-- The URI of the request. -/
def uri (s : Signable) : Except Error Uri :=
  match Target.parse s.wire with
  | .ok target => .ok ⟨some s.scheme, some s.authority, some target⟩
  | .error fault => .error (.http (.uri fault))

/-- The parts moved into a request.  The URI goes last, since it may be refused. -/
def putBack (s : Signable) : Operation Request Unit := do
  modify fun request => { request with headers := s.headers, method := s.method, uri := .root }
  let uri ← Operation.ofExcept s.uri
  modify fun request => { request with uri }

end Signable

end AwsSigning.Signing
