/-
AwsSigning/Signing/Middleware.lean

Signing every request of a client.

A middleware has a draft and a provider of credentials.  For each request it
fills in the draft with what the context of the request says, asks for a
credential, settles what is signed in place of the payload, and signs.

What is signed in place of the payload is the first of these that applies:
what the context says; the word for an unsigned payload, if the context asks
for it; the digest of nothing, if there is no payload; the word for an
unsigned payload, with a warning, if the payload is a stream that cannot be
read twice; and the digest of the payload.  So a stream is read only if
nothing else applies, and it is rewound at the end for whoever sends it.
-/
import AwsSigning.Payload
import AwsSigning.Provider
import AwsSigning.Signing.Context
import AwsSigning.Signing.Signer

namespace AwsSigning.Signing

/-! ### The record -/

/-- Signs requests with what a draft says and with credentials of a provider. -/
structure Middleware (π : Type) where
  base : Draft
  provider : π

/-- A middleware at work: the provider, the platform, and what belongs to one request. -/
structure Desk (π σ : Type) where
  provider : π
  platform : Platform
  request : Request
  payload : Payload σ
  context : RequestContext := {}
  /-- What has been worked out about the request. -/
  working : Option Working := none

namespace Desk

variable {π σ : Type}

/-- An operation of the provider and the platform. -/
def onProvider (op : Operation (π × Platform) α) : Operation (Desk π σ) α :=
  Operation.focus (fun desk => (desk.provider, desk.platform))
    (fun part desk => { desk with provider := part.1, platform := part.2 }) op

/-- An operation of the payload. -/
def onPayload (op : Operation (Payload σ) α) : Operation (Desk π σ) α :=
  Operation.focus (·.payload) (fun payload desk => { desk with payload }) op

/-- An operation of the request and of what has been worked out about it. -/
def onBench (op : Operation Bench α) : Operation (Desk π σ) α :=
  Operation.focus (fun desk => ⟨desk.request, desk.working⟩)
    (fun bench desk => { desk with request := bench.request, working := bench.working }) op

/-- A warning. -/
def warn (text : String) : Operation (Desk π σ) Unit :=
  modify fun desk => { desk with platform := desk.platform.warn text }

end Desk

namespace Middleware

variable {π σ : Type}

/-! ### The steps -/

/-- A credential that is good for signing now. -/
def credential [Source π Credential] : Operation (Desk π σ) Credential := do
  match ← Desk.onProvider Source.ask with
  | none => Operation.fail (.signing .credentialUnavailable)
  | some credential =>
    if credential.isValid (← get).platform.now then pure credential
    else Operation.fail (.signing .credentialStale)

/-- The warning about a payload that cannot be hashed. -/
def unboundedWarning : String :=
  "unable to compute hash for unbounded stream; defaulting to unsigned payload"

/-- What is signed in place of the payload. -/
def payloadValue [ByteStream σ] : Operation (Desk π σ) PayloadValue := do
  let desk ← get
  match desk.context.payload with
  | some value => pure value
  | none =>
    if desk.context.unsignedPayload then pure .unsigned
    else if desk.payload.isEmpty then pure .empty
    else if desk.payload.isUnbounded then do
      Desk.warn unboundedWarning
      pure .unsigned
    else .precomputed <$> Desk.onPayload Payload.hexDigest

/-- Sign the request on the desk. -/
def sign [Source π Credential] [ByteStream σ] (base : Draft) : Operation (Desk π σ) Unit := do
  let desk ← get
  let draft := desk.context.refine base desk.platform.now
  let credential ← credential
  let payload ← payloadValue
  let config ← Operation.ofExcept <|
    { draft with credential := some credential, payload := some payload }.build desk.platform.now
  let signature ← Desk.onBench (Signing.sign config)
  modify fun desk => { desk with context := { desk.context with signature := some signature } }
  Desk.onPayload Payload.rewind

/-! ### Description -/

/-- The middleware in words, without secrets. -/
def describe [Source π Credential] (m : Middleware π) : String :=
  Text.describeRecord "SigV4SigningMiddleware"
    [("base", m.base.describe), ("credential", Source.describe m.provider)]

end Middleware

end AwsSigning.Signing
