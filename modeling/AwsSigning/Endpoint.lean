/-
AwsSigning/Endpoint.lean

Where requests to a service go, as far as that is configured.

An endpoint may be named in six places, and the first of them counts: the
variable and the property of the service, the general variable and property,
the block of the service in a services section, and the profile.  Unlike for
other settings, variables come before properties here.  One setting makes all
six count for nothing.
-/
import AwsSigning.SharedConfig

namespace AwsSigning

/-! ### Single settings -/

namespace Endpoint

/-- The endpoint of a service among properties and variables. -/
def urlFromProcess? (p : Platform) (serviceId : String) : Option String :=
  p.envVariable? (Setting.endpointUrl.serviceVariable serviceId)
    <|> p.property? (Setting.endpointUrl.serviceProperty serviceId)
    <|> p.envVariable? Setting.endpointUrl.envVariable
    <|> p.property? Setting.endpointUrl.property

/-- The endpoint of a service in the shared configuration. -/
def urlFromConfig (config : SharedConfig) (serviceId : String) : Except Error (Option String) := do
  let profile := config.activeProfile
  let services ← config.servicesOf profile
  let block := services.bind (·.subProperty? (ServiceName.forSection serviceId) "endpoint_url")
  pure (block <|> profile.get? "endpoint_url")

/-- The endpoint that is configured for a service. -/
def url (p : Platform) (config : SharedConfig) (serviceId : String) :
    Except Error (Option String) := do
  let ignored ← Setting.ignoreEndpointUrls.resolve p (some config.activeProfile)
  if ignored.getD false then pure none
  else match urlFromProcess? p serviceId with
    | some url => pure (some url)
    | none => urlFromConfig config serviceId

/-- Whether endpoints have to follow the federal standard, if that is configured. -/
def useFips (p : Platform) (profile : Section) : Except Error (Option Bool) :=
  Setting.useFips.resolve p (some profile)

/-- Whether endpoints have to be dual-stack, if that is configured. -/
def useDualstack (p : Platform) (profile : Section) : Except Error (Option Bool) :=
  Setting.useDualstack.resolve p (some profile)

/-- The part an account id plays. -/
def accountIdMode (p : Platform) (profile : Section) : Except Error AccountIdMode :=
  (Setting.accountIdMode.resolve p (some profile)).map (·.getD .preferred)

/-- Whether endpoints are discovered; a service may ask for it. -/
def discovery (p : Platform) (profile : Section) (serviceAsks : Bool) : Except Error Bool :=
  (Setting.endpointDiscovery.resolve p (some profile)).map (·.getD serviceAsks)

end Endpoint

/-! ### All together -/

/-- What is configured about the endpoint of one service. -/
structure EndpointOptions where
  /-- The endpoint itself. -/
  url : Option String := none
  useDualstack : Bool := false
  useFips : Bool := false
  accountIdMode : AccountIdMode := .preferred
deriving DecidableEq, Repr

namespace EndpointOptions

/-- What is configured about the endpoint of a service. -/
def resolve (p : Platform) (config : SharedConfig) (serviceId : String) :
    Except Error EndpointOptions := do
  let profile := config.activeProfile
  pure {
    url := ← Endpoint.url p config serviceId
    useDualstack := (← Endpoint.useDualstack p profile).getD false
    useFips := (← Endpoint.useFips p profile).getD false
    accountIdMode := ← Endpoint.accountIdMode p profile }

/-- The options in words. -/
def describe (e : EndpointOptions) : String :=
  Text.describeRecord "EndpointConfig"
    [("endpoint_url", Text.describeOption Text.quote e.url),
     ("use_dualstack", Text.describeBool e.useDualstack),
     ("use_fips", Text.describeBool e.useFips),
     ("account_id_endpoint_mode", e.accountIdMode.describe)]

end EndpointOptions

end AwsSigning
