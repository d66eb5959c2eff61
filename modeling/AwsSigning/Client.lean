/-
AwsSigning/Client.lean

The configuration of a client of one service.

A client may fix any of its settings itself; what it leaves open is looked up
(`ClientConfig.resolve`).  All lookups share one reading of the two files.
Credentials are not looked up here: what is resolved is where they will come
from.
-/
import AwsSigning.Endpoint
import AwsSigning.Provider.Regions
import AwsSigning.Retry
import AwsSigning.Signing.Middleware

namespace AwsSigning

/-! ### The records -/

/-- The settings that a client fixes itself. -/
structure ClientConfig where
  profile : Option String := none
  region : Option String := none
  maxAttempts : Option Nat := none
  retryMode : Option RetryMode := none
  endpointUrl : Option String := none
  useFips : Option Bool := none
  useDualstack : Option Bool := none
  accountIdMode : Option AccountIdMode := none
  credential : Option Credential := none
deriving DecidableEq, Repr

/-- All settings of a client. -/
structure ResolvedConfig (κ : Type) where
  /-- The name of the active profile. -/
  profile : String
  /-- The region that requests go to. -/
  region : String
  retry : RetryOptions
  endpoint : EndpointOptions
  /-- Where credentials come from. -/
  credential : CredentialProvider κ

/-! ### Resolving -/

namespace ClientConfig

/-- The number of attempts that a client fixes is at least one. -/
def checkAttempts (c : ClientConfig) : Except Error Unit :=
  if c.maxAttempts = some 0 then
    .error ((Error.setting (.attemptsTooFew 0)).within "source: client config")
  else .ok ()

/-- Where the region comes from: the process, the profile that has been read, and the metadata
service. -/
def regionMembers (profile : Section) : List (RegionProvider (Nowhere Region)) :=
  [.source .process]
    ++ ((Region.ofProfile? profile).map fun region => .source (.fixed region)).toList
    ++ [.source (.metadata {})]

/-- The region of a client. -/
def resolveRegion (c : ClientConfig) (profile : Section) : Operation Platform String :=
  match c.region with
  | some region => pure region
  | none => Operation.of fun p =>
    let provider := RegionProvider.named (regionMembers profile)
    let (region, _, p) := Provider.resolve.outcome (provider, p)
    (region.map (·.name), p)

/-- How a client tries again. -/
def resolveRetry (c : ClientConfig) (p : Platform) (profile : Section) :
    Except Error RetryOptions := do
  let configured ← RetryOptions.resolve p (some profile)
  pure {
    maxAttempts := c.maxAttempts.getD configured.maxAttempts
    mode := c.retryMode.getD configured.mode }

/-- A value that is fixed, or what a lookup gives. -/
def fixedOr (fixed : Option α) (lookup : Except Error α) : Except Error α :=
  match fixed with
  | some a => .ok a
  | none => lookup

/-- What a client says about its endpoint. -/
def resolveEndpoint (c : ClientConfig) (p : Platform) (config : SharedConfig)
    (serviceId : String) : Except Error EndpointOptions := do
  let profile := config.activeProfile
  pure {
    url := ← fixedOr (c.endpointUrl.map some) (Endpoint.url p config serviceId)
    useDualstack :=
      ← fixedOr c.useDualstack ((Endpoint.useDualstack p profile).map (·.getD false))
    useFips := ← fixedOr c.useFips ((Endpoint.useFips p profile).map (·.getD false))
    accountIdMode := ← fixedOr c.accountIdMode (Endpoint.accountIdMode p profile) }

/-- Where the credentials of a client come from. -/
def credentialProvider (c : ClientConfig) (profile : String) : CredentialProvider κ :=
  match c.credential with
  | some credential => .source (.fixed credential)
  | none => CredentialProvider.default (some profile)

/-- All settings of a client of a service. -/
def resolve (c : ClientConfig) (serviceId : String) : Operation Platform (ResolvedConfig κ) := do
  Operation.ofExcept c.checkAttempts
  let config ← SharedConfig.load c.profile
  let profile := config.activeProfile
  let region ← c.resolveRegion profile
  let p ← get
  let retry ← Operation.ofExcept (c.resolveRetry p profile)
  let endpoint ← Operation.ofExcept (c.resolveEndpoint p config serviceId)
  pure { profile := profile.name, region, retry, endpoint,
         credential := c.credentialProvider profile.name }

/-- The settings in words, without secrets. -/
def describe (c : ClientConfig) : String :=
  Text.describeRecord "AwsConfig"
    [("profile", Text.describeOption Text.quote c.profile),
     ("region", Text.describeOption Text.quote c.region),
     ("max_attempts", Text.describeOption toString c.maxAttempts),
     ("retry_mode", Text.describeOption RetryMode.describe c.retryMode),
     ("endpoint_url", Text.describeOption Text.quote c.endpointUrl),
     ("use_fips", Text.describeOption Text.describeBool c.useFips),
     ("use_dualstack", Text.describeOption Text.describeBool c.useDualstack),
     ("account_id_endpoint_mode", Text.describeOption AccountIdMode.describe c.accountIdMode),
     ("credential", Text.describeOption Credential.describe c.credential)]

end ClientConfig

namespace ResolvedConfig

/-- Signs the requests of a client under a name of its service. -/
def middleware (c : ResolvedConfig κ) (signingName : String) :
    Signing.Middleware (CredentialProvider κ) where
  base := { region := some c.region, service := some signingName }
  provider := c.credential

/-- The settings in words, without secrets. -/
def describe [Source κ Credential] (c : ResolvedConfig κ) : String :=
  Text.describeRecord "ResolvedConfig"
    [("profile", Text.quote c.profile), ("region", Text.quote c.region),
     ("retry", c.retry.describe), ("endpoint", c.endpoint.describe),
     ("credential", c.credential.describe)]

end ResolvedConfig

end AwsSigning
