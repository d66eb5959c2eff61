/-
AwsSigning/Metadata/Client.lean

The client of the metadata service of an instance.

The service answers only to those who show a token.  A token is asked for
with one request, is good for six hours, and is shown with every other
request.  The client keeps its token in a cell and counts it as expired two
minutes early, so it asks for a new one before the old one is refused.

A token may be refused all the same.  Then the client forgets it, asks for
another one and tries again, but only once: a second refusal is an answer.
-/
import AwsSigning.Cached
import AwsSigning.Platform
import AwsSigning.Setting.Catalog

namespace AwsSigning.Metadata

/-! ### The record -/

/-- A client of the metadata service. -/
structure Client where
  /-- Where the service is, if that is not left to the settings. -/
  endpoint : Option String := none
  /-- The token in use. -/
  token : Cached String := { margin := .ofMinutes 2 }
deriving DecidableEq, Repr

/-- A client together with the platform it works on. -/
abbrev Session := Client × Platform

namespace Client

/-! ### Where the service is -/

/-- Where the service is if nothing says otherwise. -/
def defaultEndpoint : String := "http://169.254.169.254"

/-- The path under which tokens are handed out. -/
def tokenPath : String := "/latest/api/token"

/-- How many seconds a token is good for. -/
def tokenSeconds : Nat := 21600

/-- A text without slashes at its end. -/
def dropSlashes (s : String) : String :=
  String.ofList (s.toList.reverse.dropWhile (· = '/')).reverse

/-- Where the service is. -/
def base (client : Client) (p : Platform) : Except Error String :=
  match client.endpoint with
  | some endpoint => .ok (dropSlashes endpoint)
  | none => (Setting.metadataEndpoint.resolveFromProcess p).map fun endpoint =>
      dropSlashes (endpoint.getD defaultEndpoint)

/-! ### Single requests -/

/-- A request without payload. -/
def requestFor (method : Method) (url : String) (fields : List (HeaderName × String)) :
    Except Error Request := do
  let uri ← (Uri.parse url).mapError fun fault => .http (.uri fault)
  let headers ← fields.mapM fun (name, text) => do pure (name, ← HeaderValue.ofString text)
  pure { method, uri, headers }

/-- A request that could not be made. -/
def unbuilt (fault : MetadataFault) (url : String) (_ : Error) : Error :=
  (Error.metadata fault).causedOutside.within ("url: " ++ url)

/-- What a status other than success means. -/
def statusFault (status : Status) : MetadataFault :=
  if status = .unauthorized ∨ status = .forbidden then .denied status
  else if status = .notFound then .missing status
  else if status.isServerError then .server status
  else .unexpectedStatus status

/-- The failure that a status stands for; only a failing server is worth another try. -/
def statusError (operation : String) (status : Status) : Error :=
  { Error.metadata (statusFault status) with
    context := ["operation: " ++ operation]
    retryable := status.isServerError }

/-- The failure that a status stands for, with what the service said. -/
def refusal (operation : String) (status : Status) (said : String) : Error :=
  let e := statusError operation status
  if said = "" then e else e.within ("response: " ++ said)

/-- A failure to reach the service at all. -/
def unreached (endpoint : String) (e : Error) : Error :=
  ((Error.metadata .connect).causedBy e).within ("endpoint: " ++ endpoint)
    |>.within "hint: check if running on EC2 instance"
    |>.worthRetry

/-- A failure to get an answer. -/
def unanswered (path : String) (e : Error) : Error :=
  ((Error.metadata .send).causedBy e).within ("path: " ++ path) |>.worthRetry

/-- The token in the answer to a request for one. -/
def tokenOf (endpoint : String) (response : Response) : Except Error String :=
  if response.status = .ok then .ok response.text
  else if response.status = .forbidden then
    .error ((Error.metadata .tokenForbidden).within ("endpoint: " ++ endpoint))
  else .error (refusal "fetch_imds_token" response.status response.text)

/-- The text in an answer. -/
def textOf (path : String) (response : Response) : Except Error String :=
  if response.status = .ok then .ok response.text
  else .error (statusError path response.status)

/-! ### Operations -/

/-- Where the service is, as of now. -/
def currentBase : Operation Session String := do
  let (client, p) ← get
  Operation.ofExcept (client.base p)

/-- A new token, good for some time from now. -/
def fetchToken : Operation Session (Entry String) := do
  let endpoint ← currentBase
  let url := endpoint ++ tokenPath
  let head ← Operation.ofExcept <| (requestFor .put url
    [(.contentLength, "0"), (.metadataTokenTtl, toString tokenSeconds)]).mapError
      (unbuilt .tokenRequest url)
  let response ← (Operation.onSecond (Platform.send ⟨head, []⟩)).mapFailure (unreached endpoint)
  let token ← Operation.ofExcept (tokenOf endpoint response)
  let (_, p) ← get
  pure ⟨token, some (p.now.add (.ofSeconds tokenSeconds))⟩

/-- The token in use, or a new one. -/
def currentToken : Operation Session String :=
  Cached.getOrLoad (·.1.token) (fun cell s => ({ s.1 with token := cell }, s.2)) (·.2.now)
    fetchToken

/-- The answer to one request that shows a token. -/
def ask (path token : String) : Operation Session Response := do
  let endpoint ← currentBase
  let url := endpoint ++ path
  let head ← Operation.ofExcept <|
    (requestFor .get url [(.metadataToken, token)]).mapError (unbuilt .request url)
  (Operation.onSecond (Platform.send ⟨head, []⟩)).mapFailure (unanswered path)

/-- The client forgets its token. -/
def forgetToken : Operation Session Unit :=
  modify fun s => ({ s.1 with token := s.1.token.clear }, s.2)

/-- What stands under a path. -/
def fetch (path : String) : Operation Session String := do
  let first ← ask path (← currentToken)
  if first.status = .unauthorized then
    forgetToken
    let second ← ask path (← currentToken)
    Operation.ofExcept (textOf path second)
  else Operation.ofExcept (textOf path first)

/-! ### Description -/

/-- The client in words, without its token. -/
def describe (client : Client) : String :=
  Text.describeRecord "ImdsClient"
    [("endpoint", Text.describeOption Text.quote client.endpoint),
     ("token", client.token.describe)]

end Client

end AwsSigning.Metadata
