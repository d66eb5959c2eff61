/-
AwsSigning/Proofs/Client.lean

A client that fixes nothing itself.

Such a client looks up its settings in one reading of the two files.  It asks
for its region along a chain of its own, in which the profile that has been
read stands in place of the source that would read it, and it lists the
settings of its endpoint once more.  Still it gets what the single lookups
give, each of them made on the platform before anything was read
(`resolve_eq_ok_iff`).

Its credentials come from a provider that names the active profile, while the
default provider may leave it open.  Both load the same wherever the settings
are the same, so they give the same credentials, however often they are asked
(`giveAlike_default`).
-/
import AwsSigning.Client
import AwsSigning.Proofs.Provider.Sources

namespace AwsSigning

open Operation

variable {κ : Type} {p p' loaded : Platform} {config : SharedConfig} {profile? : Option String}
  {serviceId : String}

/-- The region that the default provider finds, or why it finds none. -/
def Region.ofDefault (profile? : Option String) (p : Platform) : Except Error Region :=
  (Provider.resolve.outcome
    ((RegionProvider.default profile? : RegionProvider (Nowhere Region)), p)).1

/-! ### Settings -/

theorem RetryOptions.resolve_eq (h : p.SameSettings p') (profile? : Option Section) :
    RetryOptions.resolve p profile? = RetryOptions.resolve p' profile? := by
  rw [resolve, resolve, Setting.maxAttempts.resolve_eq h, Setting.retryMode.resolve_eq h]

theorem Endpoint.url_eq (h : p.SameSettings p') (config : SharedConfig) (serviceId : String) :
    Endpoint.url p config serviceId = Endpoint.url p' config serviceId := by
  simp only [url, urlFromProcess?, Setting.ignoreEndpointUrls.resolve_eq h, Platform.envVariable?,
    Platform.property?, h.environment, h.properties]

theorem EndpointOptions.resolve_eq (h : p.SameSettings p') (config : SharedConfig)
    (serviceId : String) :
    EndpointOptions.resolve p config serviceId = EndpointOptions.resolve p' config serviceId := by
  simp only [resolve, Endpoint.url_eq h, Endpoint.useDualstack, Endpoint.useFips,
    Endpoint.accountIdMode, Setting.useDualstack.resolve_eq h, Setting.useFips.resolve_eq h,
    Setting.accountIdMode.resolve_eq h]

namespace ClientConfig

theorem resolveRetry_eq (profile? : Option String) (p : Platform) (profile : Section) :
    ({ profile := profile? } : ClientConfig).resolveRetry p profile
      = RetryOptions.resolve p (some profile) := by
  rw [resolveRetry]
  rcases RetryOptions.resolve p (some profile) with e | retry <;> rfl

theorem resolveEndpoint_eq (profile? : Option String) (p : Platform) (config : SharedConfig)
    (serviceId : String) :
    ({ profile := profile? } : ClientConfig).resolveEndpoint p config serviceId
      = EndpointOptions.resolve p config serviceId := by
  rw [resolveEndpoint, EndpointOptions.resolve]
  simp only [fixedOr, Option.map_none]
  rcases Endpoint.url p config serviceId with e | url
  · rfl
  rcases Endpoint.useDualstack p config.activeProfile with e | dualstack
  · rfl
  rcases Endpoint.useFips p config.activeProfile with e | fips
  · rfl
  · rfl

/-- First the number of attempts is found out, and then the manner. -/
theorem resolveRetry_eq_bind (c : ClientConfig) (p : Platform) (profile : Section) :
    c.resolveRetry p profile =
      ((Setting.maxAttempts.resolve p (some profile)).map fun value? =>
        c.maxAttempts.getD (value?.getD ({} : RetryOptions).maxAttempts)).bind fun maxAttempts =>
      ((Setting.retryMode.resolve p (some profile)).map fun value? =>
        c.retryMode.getD (value?.getD ({} : RetryOptions).mode)).bind fun mode =>
      .ok { maxAttempts, mode } := by
  rw [resolveRetry, RetryOptions.resolve]
  rcases Setting.maxAttempts.resolve p (some profile) with e | attempts
  · rfl
  · rcases Setting.retryMode.resolve p (some profile) with e | mode <;> rfl

theorem resolveRetry_eq_ok_iff {c : ClientConfig} {profile : Section} {retry : RetryOptions} :
    c.resolveRetry p profile = .ok retry ↔ ∃ attempts? mode?,
      Setting.maxAttempts.resolve p (some profile) = .ok attempts? ∧
      Setting.retryMode.resolve p (some profile) = .ok mode? ∧
      retry = {
        maxAttempts := c.maxAttempts.getD (attempts?.getD ({} : RetryOptions).maxAttempts)
        mode := c.retryMode.getD (mode?.getD ({} : RetryOptions).mode) } := by
  simp only [resolveRetry, RetryOptions.resolve, bind_eq_ok_iff, pure_eq_ok_iff]
  constructor
  · rintro ⟨_, ⟨attempts?, hattempts, mode?, hmode, rfl⟩, rfl⟩
    exact ⟨attempts?, mode?, hattempts, hmode, rfl⟩
  · rintro ⟨attempts?, mode?, hattempts, hmode, rfl⟩
    exact ⟨_, ⟨attempts?, hattempts, mode?, hmode, rfl⟩, rfl⟩

theorem resolveEndpoint_eq_ok_iff {c : ClientConfig} {endpoint : EndpointOptions} :
    c.resolveEndpoint p config serviceId = .ok endpoint ↔
      fixedOr (c.endpointUrl.map some) (Endpoint.url p config serviceId) = .ok endpoint.url ∧
      fixedOr c.useDualstack ((Endpoint.useDualstack p config.activeProfile).map (·.getD false))
        = .ok endpoint.useDualstack ∧
      fixedOr c.useFips ((Endpoint.useFips p config.activeProfile).map (·.getD false))
        = .ok endpoint.useFips ∧
      fixedOr c.accountIdMode (Endpoint.accountIdMode p config.activeProfile)
        = .ok endpoint.accountIdMode := by
  simp only [resolveEndpoint, bind_eq_ok_iff, pure_eq_ok_iff]
  constructor
  · rintro ⟨url, hurl, dualstack, hdualstack, fips, hfips, mode, hmode, rfl⟩
    exact ⟨hurl, hdualstack, hfips, hmode⟩
  · rintro ⟨hurl, hdualstack, hfips, hmode⟩
    exact ⟨_, hurl, _, hdualstack, _, hfips, _, hmode, rfl⟩

/-! ### The region -/

section Region

open Provider

/-- The source of a profile gives the region of the profile that is loaded. -/
theorem ask_profile_of_load (hload : (SharedConfig.load profile?).outcome p = (.ok config, loaded)) :
    (source (.profile profile?) : RegionProvider (Nowhere Region)).ask p
      = (.ok (Region.ofProfile? config.activeProfile), source (.profile profile?), loaded) := by
  have hregion : (Region.ofSharedConfig profile?).outcome p
      = (.ok (Region.ofProfile? config.activeProfile), loaded) := by
    rw [Region.ofSharedConfig, outcome_bind, hload]
    rfl
  simp only [Provider.ask, Source.ask, RegionSource.ask, outcome_of, hregion]

/-- **The profile that was read gives the region that its source would have given**, and the chain
goes on behind it as it would have. -/
theorem toOption_askMembers_regionMembers
    (hload : (SharedConfig.load profile?).outcome p = (.ok config, loaded)) :
    (askMembers (regionMembers config.activeProfile) loaded).1.toOption
      = (askMembers (RegionProvider.defaultMembers (κ := Nowhere Region) profile?) p).1.toOption := by
  have hprofile := ask_profile_of_load hload
  obtain ⟨region?, hp⟩ := Region.exists_ofProcess p
  have hloaded : Region.ofProcess loaded = .ok region? :=
    (Region.ofProcess_eq (SharedConfig.sameSettings_of_load hload)).symm.trans hp
  rw [regionMembers, RegionProvider.defaultMembers, List.append_assoc, List.singleton_append]
  rcases region? with - | region
  · rw [toOption_askMembers_of_none (RegionProvider.ask_process hloaded),
      toOption_askMembers_of_none (RegionProvider.ask_process hp)]
    rcases hfound : Region.ofProfile? config.activeProfile with - | region
    · -- both chains go on to the metadata service, on the platform after loading
      rw [hfound] at hprofile
      rw [toOption_askMembers_of_none hprofile]
      rfl
    · rw [hfound] at hprofile
      rw [askMembers_of_given (congrArg (given ·.1) hprofile)]
      rfl
  · -- the process has a region, and the profile does not matter
    rw [askMembers_of_given (congrArg (given ·.1) (RegionProvider.ask_process hloaded)),
      askMembers_of_given (congrArg (given ·.1) (RegionProvider.ask_process hp))]

/-- The region that a client finds is the one that the chain by itself finds before anything was
read. -/
theorem resolveRegion_eq_ok_iff
    (hload : (SharedConfig.load profile?).outcome p = (.ok config, loaded)) {name : String} :
    ((({ profile := profile? } : ClientConfig).resolveRegion config.activeProfile).outcome
        loaded).1 = .ok name ↔
      Region.ofDefault profile? p = .ok ⟨name⟩ := by
  have hfound := toOption_askMembers_regionMembers hload
  simp only [resolveRegion, Region.ofDefault, Provider.resolve, outcome_of, RegionProvider.named,
    RegionProvider.default, Provider.members]
  revert hfound
  generalize (askMembers (regionMembers config.activeProfile) loaded).1 = found
  generalize (askMembers (RegionProvider.defaultMembers (κ := Nowhere Region) profile?) p).1 = found'
  intro hfound
  rcases found with attempts | ⟨region⟩ <;> rcases found' with attempts' | ⟨region'⟩ <;> cases hfound
  · constructor <;> rintro ⟨⟩
  · constructor <;> rintro ⟨⟩ <;> rfl

/-- Looking for the region changes no setting. -/
theorem sameSettings_resolveRegion (c : ClientConfig) (profile : Section) (p : Platform) :
    p.SameSettings ((c.resolveRegion profile).outcome p).2 := by
  rw [resolveRegion]
  rcases c.region with - | region
  · have hwalk := (RelatedMembers.refl (fun _ => rfl) (regionMembers profile)).ask
      (RegionSource.askedAlike_eq p) (.refl (.refl p))
    exact hwalk.platform.settings
  · exact .refl p

end Region

/-! ### What comes after the region -/

section After

variable {c : ClientConfig} {after : Platform} {region : String}

/-- Where the settings are the same, so are the way of trying again and the endpoint. -/
theorem resolveRetry_eq_of_same (c : ClientConfig) (h : p.SameSettings p') (profile : Section) :
    c.resolveRetry p profile = c.resolveRetry p' profile := by
  rw [resolveRetry, resolveRetry, RetryOptions.resolve_eq h]

theorem resolveEndpoint_eq_of_same (c : ClientConfig) (h : p.SameSettings p')
    (config : SharedConfig) (serviceId : String) :
    c.resolveEndpoint p config serviceId = c.resolveEndpoint p' config serviceId := by
  simp only [resolveEndpoint, Endpoint.url_eq h, Endpoint.useDualstack, Endpoint.useFips,
    Endpoint.accountIdMode, Setting.useDualstack.resolve_eq h, Setting.useFips.resolve_eq h,
    Setting.accountIdMode.resolve_eq h]

theorem sameSettings_of_region
    (hload : (SharedConfig.load c.profile).outcome p = (.ok config, loaded))
    (hregion : (c.resolveRegion config.activeProfile).outcome loaded = (.ok region, after)) :
    p.SameSettings after := by
  have hfound := sameSettings_resolveRegion c config.activeProfile loaded
  rw [hregion] at hfound
  exact (SharedConfig.sameSettings_of_load hload).trans hfound

/-- **Behind the region the rest is looked up with the settings that were there in the
beginning.** -/
theorem outcome_resolve_of_region (hattempts : c.checkAttempts = .ok ())
    (hload : (SharedConfig.load c.profile).outcome p = (.ok config, loaded))
    (hregion : (c.resolveRegion config.activeProfile).outcome loaded = (.ok region, after)) :
    (c.resolve (κ := κ) serviceId).outcome p =
      (do
        let retry ← c.resolveRetry p config.activeProfile
        let endpoint ← c.resolveEndpoint p config serviceId
        pure {
          profile := config.activeProfile.name, region, retry, endpoint
          credential := c.credentialProvider config.activeProfile.name }, after) := by
  have hafter := sameSettings_of_region hload hregion
  rw [c.resolveRetry_eq_of_same hafter, c.resolveEndpoint_eq_of_same hafter]
  simp only [resolve, outcome_bind, outcome_ofExcept, outcome_get, hattempts, hload, hregion]
  rcases c.resolveRetry after config.activeProfile with e | retry
  · rfl
  rcases c.resolveEndpoint after config serviceId with e | endpoint <;> rfl

/-- **A client that is resolved has found all its settings**, and it was looked for them with the
settings that were there in the beginning. -/
theorem exists_of_resolve {resolved : ResolvedConfig κ}
    (h : (c.resolve serviceId).outcome p = (.ok resolved, after)) :
    c.checkAttempts = .ok () ∧ ∃ config loaded,
      (SharedConfig.load c.profile).outcome p = (.ok config, loaded) ∧
      (c.resolveRegion config.activeProfile).outcome loaded = (.ok resolved.region, after) ∧
      c.resolveRetry p config.activeProfile = .ok resolved.retry ∧
      c.resolveEndpoint p config serviceId = .ok resolved.endpoint := by
  obtain ⟨⟨⟩, _, hchecked, hrest⟩ := outcome_bind_eq_ok_iff.mp h
  obtain ⟨hattempts, rfl⟩ := Prod.mk.inj hchecked
  obtain ⟨config, loaded, hload, hrest⟩ := outcome_bind_eq_ok_iff.mp hrest
  obtain ⟨region, found, hregion, -⟩ := outcome_bind_eq_ok_iff.mp hrest
  rw [outcome_resolve_of_region hattempts hload hregion, Prod.mk.injEq] at h
  simp only [bind_eq_ok_iff, pure_eq_ok_iff] at h
  obtain ⟨⟨retry, hretry, endpoint, hendpoint, rfl⟩, rfl⟩ := h
  exact ⟨hattempts, config, loaded, hload, hregion, hretry, hendpoint⟩

end After

/-! ### All together -/

/-- **What is resolved at once is what is resolved one by one**, each on the platform before
anything was read. -/
theorem resolve_eq_ok_iff (hload : (SharedConfig.load profile?).outcome p = (.ok config, loaded))
    {resolved : ResolvedConfig κ} :
    ((({ profile := profile? } : ClientConfig).resolve serviceId).outcome p).1 = .ok resolved ↔
      ∃ region retry endpoint,
        Region.ofDefault profile? p = .ok ⟨region⟩ ∧
        RetryOptions.resolve p (some config.activeProfile) = .ok retry ∧
        EndpointOptions.resolve p config serviceId = .ok endpoint ∧
        resolved = {
          profile := config.active, region, retry, endpoint
          credential := CredentialProvider.default (some config.active) } := by
  have hattempts : ({ profile := profile? } : ClientConfig).checkAttempts = .ok () := rfl
  have hcredential : ({ profile := profile? } : ClientConfig).credentialProvider (κ := κ)
      config.active = CredentialProvider.default (some config.active) := rfl
  have hafter := (SharedConfig.sameSettings_of_load hload).trans
    (sameSettings_resolveRegion { profile := profile? } config.activeProfile loaded)
  simp only [← resolveRegion_eq_ok_iff hload]
  rcases hregion : (({ profile := profile? } : ClientConfig).resolveRegion
    config.activeProfile).outcome loaded with ⟨found, after⟩
  rw [hregion] at hafter
  -- what comes after the region is looked up on a later platform, but with the same settings
  rw [RetryOptions.resolve_eq hafter, EndpointOptions.resolve_eq hafter]
  simp only [resolve, outcome_bind, outcome_ofExcept, outcome_get, hattempts, hload, hregion]
  rcases found with e | region
  · simp
  dsimp only
  rw [resolveRetry_eq]
  rcases RetryOptions.resolve after (some config.activeProfile) with e | retry
  · simp
  dsimp only
  rw [resolveEndpoint_eq]
  rcases EndpointOptions.resolve after config serviceId with e | endpoint
  · simp
  · simp [SharedConfig.name_activeProfile hload, hcredential, eq_comm]

/-- Resolving changes no setting. -/
theorem sameSettings_of_resolve {resolved : ResolvedConfig κ} {after : Platform}
    (h : (({ profile := profile? } : ClientConfig).resolve serviceId).outcome p
      = (.ok resolved, after)) : p.SameSettings after := by
  obtain ⟨-, config, loaded, hload, hregion, -⟩ := exists_of_resolve h
  exact sameSettings_of_region hload hregion

/-- **A provider that names the active profile gives what the default provider gives**, wherever the
settings are the same. -/
theorem giveAlike_default [Source κ Credential] {origin : Platform}
    (hload : (SharedConfig.load profile?).outcome p = (.ok config, loaded))
    (horigin : p.SameSettings origin) :
    Provider.GiveAlike origin
      (CredentialProvider.default (some config.active) : CredentialProvider κ)
      (CredentialProvider.default profile? : CredentialProvider κ) := by
  have hprofile : CredentialSource.SameKind (κ := κ) origin (.profile (some config.active))
      (.profile profile?) :=
    .profile fun _ hq => SharedConfig.load_active hload (horigin.trans hq)
  have hmembers : Provider.RelatedMembers (CredentialSource.SameKind (κ := κ) origin)
      (CredentialProvider.defaultMembers (some config.active))
      (CredentialProvider.defaultMembers profile?) :=
    .cons (.source .process) (.cons (.source hprofile) (.cons (.source (.metadata {})) .nil))
  exact (Provider.Related.chain _ hmembers).giveAlike (CredentialSource.askedAlike_sameKind origin)

/-- **A client that fixes nothing but perhaps its profile agrees with the single lookups.**  It
resolves if and only if its region, the way it tries again and its endpoint can be looked up one by
one, each on the platform before anything was read.  It has exactly what they give, under the name
of the active profile, and its credentials are those of the default provider, however often the two
are asked with the settings left as they are. -/
theorem resolve_agrees [Source κ Credential]
    (hload : (SharedConfig.load profile?).outcome p = (.ok config, loaded)) (serviceId : String) :
    ((∃ resolved : ResolvedConfig κ,
        ((({ profile := profile? } : ClientConfig).resolve serviceId).outcome p).1 = .ok resolved) ↔
      (∃ region, Region.ofDefault profile? p = .ok region) ∧
      (∃ retry, RetryOptions.resolve p (some config.activeProfile) = .ok retry) ∧
      (∃ endpoint, EndpointOptions.resolve p config serviceId = .ok endpoint)) ∧
    ∀ (resolved : ResolvedConfig κ) (after : Platform),
      (({ profile := profile? } : ClientConfig).resolve serviceId).outcome p
        = (.ok resolved, after) →
      Region.ofDefault profile? p = .ok ⟨resolved.region⟩ ∧
      RetryOptions.resolve p (some config.activeProfile) = .ok resolved.retry ∧
      EndpointOptions.resolve p config serviceId = .ok resolved.endpoint ∧
      resolved.profile = config.active ∧
      Provider.GiveAlike after resolved.credential
        (CredentialProvider.default profile? : CredentialProvider κ) := by
  refine ⟨⟨?_, ?_⟩, ?_⟩
  · rintro ⟨resolved, hresolved⟩
    obtain ⟨region, retry, endpoint, hregion, hretry, hendpoint, -⟩ :=
      (resolve_eq_ok_iff hload).mp hresolved
    exact ⟨⟨_, hregion⟩, ⟨retry, hretry⟩, ⟨endpoint, hendpoint⟩⟩
  · rintro ⟨⟨region, hregion⟩, ⟨retry, hretry⟩, ⟨endpoint, hendpoint⟩⟩
    exact ⟨_, (resolve_eq_ok_iff hload).mpr
      ⟨region.name, retry, endpoint, hregion, hretry, hendpoint, rfl⟩⟩
  · intro resolved after hresolved
    obtain ⟨region, retry, endpoint, hregion, hretry, hendpoint, rfl⟩ :=
      (resolve_eq_ok_iff hload).mp (congrArg Prod.fst hresolved)
    exact ⟨hregion, hretry, hendpoint, rfl,
      giveAlike_default hload (sameSettings_of_resolve hresolved)⟩

/-- A machine with a profile in its config file, named by a variable. -/
def devPlatform : Platform :=
  .ofUser [("AWS_PROFILE", "dev")] [("/home/dev/.aws/config",
    .contents (Utf8.ofString "[profile dev]\nregion = eu-west-1\nmax_attempts = 5\n"))]

/-- What is configured there. -/
def devConfig : SharedConfig where
  active := "dev"
  profiles :=
    [("dev", { name := "dev", properties := [("region", "eu-west-1"), ("max_attempts", "5")] })]
  services := []

theorem resolve_agrees_devPlatform :
    (SharedConfig.load none).outcome devPlatform = (.ok devConfig, devPlatform) ∧
    ∃ (resolved : ResolvedConfig (Nowhere Credential)) (after : Platform),
      (({ profile := none } : ClientConfig).resolve "s3").outcome devPlatform
        = (.ok resolved, after) ∧
      resolved.profile = "dev" ∧ resolved.region = "eu-west-1" ∧ resolved.retry.maxAttempts = 5 ∧
      Provider.GiveAlike after resolved.credential
        (CredentialProvider.default none : CredentialProvider (Nowhere Credential)) := by
  have hload : (SharedConfig.load none).outcome devPlatform = (.ok devConfig, devPlatform) := rfl
  have hregion : Region.ofDefault none devPlatform = .ok ⟨"eu-west-1"⟩ := rfl
  have hretry : RetryOptions.resolve devPlatform (some devConfig.activeProfile)
      = .ok { maxAttempts := 5 } := rfl
  have hendpoint : EndpointOptions.resolve devPlatform devConfig "s3" = .ok {} := rfl
  obtain ⟨hiff, hagrees⟩ := resolve_agrees (κ := Nowhere Credential) hload "s3"
  obtain ⟨resolved, hresolved⟩ := hiff.mpr ⟨⟨_, hregion⟩, ⟨_, hretry⟩, ⟨_, hendpoint⟩⟩
  generalize hrun : (({ profile := none } : ClientConfig).resolve (κ := Nowhere Credential)
    "s3").outcome devPlatform = run at hresolved ⊢
  obtain ⟨found, after⟩ := run
  cases hresolved
  obtain ⟨hregion', hretry', -, hprofile, hcredentials⟩ := hagrees resolved after hrun
  refine ⟨hload, resolved, after, rfl, hprofile, ?_, ?_, hcredentials⟩
  · exact congrArg Region.name (Except.ok.inj (hregion'.symm.trans hregion))
  · exact congrArg RetryOptions.maxAttempts (Except.ok.inj (hretry'.symm.trans hretry))

/-! ### A machine with one variable -/

/-- A machine on which one variable is set, and which has no files. -/
def variablePlatform (name text : String) : Platform := .ofUser [(name, text)] []

/-- What is configured in no files: nothing. -/
def bareConfig : SharedConfig where
  active := "default"
  profiles := [("default", { name := "default" })]
  services := []

end ClientConfig

end AwsSigning
