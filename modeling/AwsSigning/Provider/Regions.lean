/-
AwsSigning/Provider/Regions.lean

The sources of regions: the process, a profile, the metadata service, a fixed
region, and sources of the caller's own.

A blank region in the process or in a profile counts as none.  An instance
never moves, so the first region that the metadata service names is kept for
ever; whether the service may be used at all is looked up before that.
-/
import AwsSigning.Provider.Credentials

namespace AwsSigning

/-! ### Regions -/

/-- The region of a service. -/
structure Region where
  /-- The name of the region. -/
  name : String
deriving DecidableEq, Repr

instance : Provided Region where
  what := "region"
  expiry _ := none

namespace Region

/-- The region with a name, unless the name is blank. -/
def ofName? (name : String) : Option Region :=
  if Text.isBlankText name.toList then none else some ⟨name⟩

/-- The region among properties and variables. -/
def ofProcess (p : Platform) : Except Error (Option Region) :=
  (Setting.region.resolveFromProcess p).map (·.bind ofName?)

/-- The region in a profile. -/
def ofProfile? (profile : Section) : Option Region := (profile.get? "region").bind ofName?

/-- The region in the profile of a name, or in the active one. -/
def ofSharedConfig (profile? : Option String) : Operation Platform (Option Region) := do
  let config ← SharedConfig.load profile?
  pure (ofProfile? config.activeProfile)

end Region

/-! ### Instance metadata -/

namespace Metadata

/-- The path under which the region stands. -/
def regionPath : String := "/latest/meta-data/placement/region"

/-- A client that keeps the region it was told. -/
structure Locator where
  client : Client := {}
  /-- The region. -/
  region : Cached Region := { margin := .zero }
deriving DecidableEq, Repr

namespace Locator

/-- The region that the metadata service names, to be kept for ever. -/
def load : Operation (Locator × Platform) (Entry Region) :=
  Operation.focus (fun s => (s.1.client, s.2)) (fun t s => ({ s.1 with client := t.1 }, t.2)) do
    let text ← Client.fetch regionPath
    pure ⟨⟨String.ofList (Text.trim text.toList)⟩, none⟩

/-- The region of the instance. -/
def fetch : Operation (Locator × Platform) (Option Region) := do
  let (_, p) ← get
  if ← Operation.ofExcept (isDisabled p) then pure none
  else
    some <$> Cached.getOrLoad (·.1.region) (fun cell s => ({ s.1 with region := cell }, s.2))
      (·.2.now) load

end Locator

end Metadata

/-! ### All sources -/

/-- A source of regions; `κ` holds the sources of the caller's own. -/
inductive RegionSource (κ : Type) where
  /-- Properties and environment variables. -/
  | process
  /-- A profile, by name or the active one. -/
  | profile (name? : Option String)
  /-- The metadata service. -/
  | metadata (locator : Metadata.Locator)
  /-- One region for ever. -/
  | fixed (region : Region)
  /-- A source of the caller's own. -/
  | custom (state : κ)

namespace RegionSource

variable {κ : Type}

/-- The region of a source, if there is one. -/
def ask [Source κ Region] :
    Operation (RegionSource κ × Platform) (Option Region) := Operation.of fun (source, p) =>
  match source with
  | process => (Region.ofProcess p, process, p)
  | profile name? =>
    let (result, p) := (Region.ofSharedConfig name?).outcome p
    (result, profile name?, p)
  | metadata locator =>
    let (result, locator, p) := Metadata.Locator.fetch.outcome (locator, p)
    (result, metadata locator, p)
  | fixed region => (.ok (some region), fixed region, p)
  | custom state =>
    let (result, state, p) := Source.ask.outcome (state, p)
    (result, custom state, p)

/-- The source in words. -/
def describe [Source κ Region] : RegionSource κ → String
  | process => "EnvRegionProvider"
  | profile name? =>
    Text.describeRecord "ProfileRegionProvider" [("profile", Text.describeOption Text.quote name?)]
  | metadata locator =>
    Text.describeRecord "ImdsRegionProvider"
      [("client", locator.client.describe), ("region", locator.region.describe)]
  | fixed region =>
    Text.describeRecord "StaticRegionProvider" [("region", Text.quote region.name)]
  | custom state => Source.describe state

end RegionSource

instance {κ : Type} [Source κ Region] : Source (RegionSource κ) Region where
  ask := RegionSource.ask
  describe := RegionSource.describe

/-! ### The default chain -/

/-- A provider of regions. -/
abbrev RegionProvider (κ : Type) := Provider (RegionSource κ) Region

namespace RegionProvider

variable {κ : Type}

/-- The sources that are asked if nothing else is said: the process, a profile and the metadata
service. -/
def defaultMembers (profile? : Option String) : List (RegionProvider κ) :=
  [.source .process, .source (.profile profile?), .source (.metadata {})]

/-- Some providers as the chain that is used if nothing else is said. -/
def named (members : List (RegionProvider κ)) : RegionProvider κ :=
  .chain (.named "DefaultRegionProvider") members

/-- The provider that is used if nothing else is said. -/
def default (profile? : Option String) : RegionProvider κ := named (defaultMembers profile?)

end RegionProvider

end AwsSigning
