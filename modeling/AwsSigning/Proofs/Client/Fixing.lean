/-
AwsSigning/Proofs/Client/Fixing.lean

A client that fixes a setting itself.

What a client fixes need not be looked up, so it should not matter what stands
under the names of that setting.  Two platforms that differ at most there are
*apart* (`Fixable.Apart`): no other lookup can tell them from each other, and
loading, the metadata service and the search for a region stay in lockstep on
them.  So the client resolves the same on both, if nothing at all is read of
the setting, and that is so for five of the seven settings there are.

The number of attempts and the manner of trying again are read even where the
client fixes them, and what was read is thrown away afterwards
(`Fixable.readAnyway`).  A text that cannot be read is then a failure of the
client, although nothing depends on it; where there is none, the client
resolves the same here as well (`resolve_of_apart`).
-/
import Mathlib.Data.Fintype.Basic
import AwsSigning.Proofs.Client

namespace AwsSigning

open Operation

/-- The settings that a client may fix, and that are looked up otherwise. -/
inductive Fixable where
  | region
  | maxAttempts
  | retryMode
  | endpointUrl
  | useFips
  | useDualstack
  | accountIdMode
deriving DecidableEq

namespace Fixable

instance : Fintype Fixable where
  elems := {region, maxAttempts, retryMode, endpointUrl, useFips, useDualstack, accountIdMode}
  complete s := by cases s <;> decide

/-! ### Names -/

/-- The environment variable of a setting. -/
def envVariable : Fixable → String
  | region => Setting.region.envVariable
  | maxAttempts => Setting.maxAttempts.envVariable
  | retryMode => Setting.retryMode.envVariable
  | endpointUrl => Setting.endpointUrl.envVariable
  | useFips => Setting.useFips.envVariable
  | useDualstack => Setting.useDualstack.envVariable
  | accountIdMode => Setting.accountIdMode.envVariable

/-- The property of a setting. -/
def property : Fixable → String
  | region => Setting.region.property
  | maxAttempts => Setting.maxAttempts.property
  | retryMode => Setting.retryMode.property
  | endpointUrl => Setting.endpointUrl.property
  | useFips => Setting.useFips.property
  | useDualstack => Setting.useDualstack.property
  | accountIdMode => Setting.accountIdMode.property

/-- The client fixes the setting. -/
def IsFixed (c : ClientConfig) : Fixable → Prop
  | region => c.region.isSome
  | maxAttempts => c.maxAttempts.isSome
  | retryMode => c.retryMode.isSome
  | endpointUrl => c.endpointUrl.isSome
  | useFips => c.useFips.isSome
  | useDualstack => c.useDualstack.isSome
  | accountIdMode => c.accountIdMode.isSome

variable {c : ClientConfig} {s t : Fixable} {text : String}

theorem IsFixed.ne (h : s.IsFixed c) (hopen : ¬t.IsFixed c) : t ≠ s := by
  rintro rfl
  exact hopen h

/-- Names of one kind, variables or properties, for all these settings. -/
structure Naming where
  /-- The name of a setting. -/
  name : Fixable → String
  /-- The name of the endpoint of one service. -/
  forService : String → String
  differ : ∀ s t : Fixable, t ≠ s → name t ≠ name s
  /-- The name for a service is a longer form of that of the endpoint. -/
  longer : ∀ serviceId, (name endpointUrl).toList <+: (forService serviceId).toList
  /-- No other name is. -/
  notLonger : ∀ s : Fixable, s ≠ endpointUrl → ¬(name endpointUrl).toList <+: (name s).toList

namespace Naming

variable {names : Naming}

/-- The setting is looked up under this name, if only for one service. -/
def Has (names : Naming) (s : Fixable) (text : String) : Prop :=
  text = names.name s ∨ s = endpointUrl ∧ ∃ serviceId, text = names.forService serviceId

theorem not_has (hne : text ≠ names.name s)
    (hservice : ¬(names.name endpointUrl).toList <+: text.toList) : ¬names.Has s text := by
  rintro (heq | ⟨-, serviceId, rfl⟩)
  · exact hne heq
  · exact hservice (names.longer serviceId)

/-- No setting is looked up under a name of another one. -/
theorem not_has_of_ne (h : t ≠ s) : ¬names.Has s (names.name t) := by
  rintro (heq | ⟨rfl, serviceId, heq⟩)
  · exact names.differ s t h heq
  · exact names.notLonger t h (heq ▸ names.longer serviceId)

/-- The endpoint of one service is looked up under no name of another setting. -/
theorem not_has_forService (h : s ≠ endpointUrl) (serviceId : String) :
    ¬names.Has s (names.forService serviceId) := by
  rintro (heq | ⟨rfl, -⟩)
  · exact names.notLonger s h (heq ▸ names.longer serviceId)
  · exact h rfl

end Naming

/-- The environment variables. -/
def variableNames : Naming where
  name := envVariable
  forService := Setting.endpointUrl.serviceVariable
  differ := by decide
  longer serviceId := by
    rw [Setting.serviceVariable, String.append_assoc, String.toList_append]
    exact List.prefix_append _ _
  notLonger := by decide

/-- The properties. -/
def propertyNames : Naming where
  name := property
  forService := Setting.endpointUrl.serviceProperty
  differ := by decide
  longer serviceId := by
    rw [Setting.serviceProperty, String.toList_append]
    exact List.prefix_append _ _
  notLonger := by decide

/-- Other things are looked up under other names. -/
theorem not_has_variable (s : Fixable)
    (h : text ∈ Setting.ignoreEndpointUrls.envVariable :: Platform.ambientVariables) :
    ¬variableNames.Has s text := by
  have hother : ∀ s : Fixable,
      ∀ text ∈ Setting.ignoreEndpointUrls.envVariable :: Platform.ambientVariables,
      text ≠ variableNames.name s ∧
        ¬(variableNames.name endpointUrl).toList <+: text.toList := by decide
  exact Naming.not_has (hother s text h).1 (hother s text h).2

theorem not_has_property (s : Fixable)
    (h : text ∈ Setting.ignoreEndpointUrls.property :: Platform.ambientProperties) :
    ¬propertyNames.Has s text := by
  have hother : ∀ s : Fixable,
      ∀ text ∈ Setting.ignoreEndpointUrls.property :: Platform.ambientProperties,
      text ≠ propertyNames.name s ∧
        ¬(propertyNames.name endpointUrl).toList <+: text.toList := by decide
  exact Naming.not_has (hother s text h).1 (hother s text h).2

/-! ### Platforms apart -/

/-- Two platforms differ at most in what stands under the names of a setting. -/
structure Apart (s : Fixable) (p p' : Platform) : Prop where
  now : p.now = p'.now
  systemHome : p.systemHome = p'.systemHome
  files : p.files = p'.files
  replies : p.replies = p'.replies
  sent : p.sent = p'.sent
  warnings : p.warnings = p'.warnings
  environment : ∀ name, ¬variableNames.Has s name → p.envVariable? name = p'.envVariable? name
  properties : ∀ name, ¬propertyNames.Has s name → p.property? name = p'.property? name

/-- The same request gets the same reply. -/
theorem lockstep_send (s : Fixable) (request : Outgoing) :
    (Platform.send request).Lockstep s.Apart Eq (Platform.send request) := by
  intro p p' h
  have hreplies := h.replies
  rcases hp : p.replies with - | - | ⟨reply, rest⟩
  all_goals
    rw [hp] at hreplies
    simp only [Platform.send, outcome_of, hp, ← hreplies]
  · exact ⟨.error _, h⟩
  · exact ⟨.error _, { h with replies := rfl, sent := by rw [h.sent] }⟩
  · exact ⟨.refl (fun _ => rfl) reply, { h with replies := rfl, sent := by rw [h.sent] }⟩

/-- **Platforms that are apart agree on all that loading and the metadata service look at.** -/
theorem agreement_apart (s : Fixable) : Platform.Agreement s.Apart where
  now h := h.now
  systemHome h := h.systemHome
  files h := h.files
  environment h name hname :=
    h.environment name (not_has_variable s (List.mem_cons_of_mem _ hname))
  properties h name hname :=
    h.properties name (not_has_property s (List.mem_cons_of_mem _ hname))
  send := lockstep_send s
  warned _ h := { h with warnings := by rw [h.warnings] }

namespace Apart

variable {p p' : Platform}

/-- **Any other setting is the same on both.** -/
theorem resolve_eq {α : Type} {setting : Setting α} (h : s.Apart p p') (hne : t ≠ s)
    (hvariable : setting.envVariable = t.envVariable) (hproperty : setting.property = t.property)
    (profile? : Option Section) : setting.resolve p profile? = setting.resolve p' profile? := by
  apply setting.resolve_eq_of_names
  · rw [hvariable]
    exact h.environment _ (variableNames.not_has_of_ne hne)
  · rw [hproperty]
    exact h.properties _ (propertyNames.not_has_of_ne hne)

theorem region_eq (h : s.Apart p p') (hne : s ≠ region) :
    Region.ofProcess p = Region.ofProcess p' := by
  rw [Region.ofProcess, Region.ofProcess, Setting.resolveFromProcess, Setting.resolveFromProcess,
    h.resolve_eq (t := region) hne.symm rfl rfl]

/-- The endpoint is the same as well, though it is looked up in places of its own. -/
theorem url_eq (h : s.Apart p p') (hne : s ≠ endpointUrl) (config : SharedConfig)
    (serviceId : String) : Endpoint.url p config serviceId = Endpoint.url p' config serviceId := by
  have hignore : Setting.ignoreEndpointUrls.resolve p (some config.activeProfile)
      = Setting.ignoreEndpointUrls.resolve p' (some config.activeProfile) := by
    apply Setting.resolve_eq_of_names
    · exact h.environment _ (not_has_variable s List.mem_cons_self)
    · exact h.properties _ (not_has_property s List.mem_cons_self)
  have hvariable : p.envVariable? Setting.endpointUrl.envVariable
      = p'.envVariable? Setting.endpointUrl.envVariable :=
    h.environment _ (variableNames.not_has_of_ne hne.symm)
  have hproperty : p.property? Setting.endpointUrl.property
      = p'.property? Setting.endpointUrl.property :=
    h.properties _ (propertyNames.not_has_of_ne hne.symm)
  have hserviceVariable : p.envVariable? (Setting.endpointUrl.serviceVariable serviceId)
      = p'.envVariable? (Setting.endpointUrl.serviceVariable serviceId) :=
    h.environment _ (variableNames.not_has_forService hne serviceId)
  have hserviceProperty : p.property? (Setting.endpointUrl.serviceProperty serviceId)
      = p'.property? (Setting.endpointUrl.serviceProperty serviceId) :=
    h.properties _ (propertyNames.not_has_forService hne serviceId)
  have hprocess : Endpoint.urlFromProcess? p serviceId = Endpoint.urlFromProcess? p' serviceId := by
    rw [Endpoint.urlFromProcess?, Endpoint.urlFromProcess?, hserviceVariable, hserviceProperty,
      hvariable, hproperty]
  rw [Endpoint.url, Endpoint.url, hignore, hprocess]

end Apart

/-! ### What is read anyway -/

/-- What is read of a setting even where the client fixes it. -/
def readAnyway (s : Fixable) (p : Platform) (profile : Section) : Except Error Unit :=
  match s with
  | maxAttempts => (Setting.maxAttempts.resolve p (some profile)).map fun _ => ()
  | retryMode => (Setting.retryMode.resolve p (some profile)).map fun _ => ()
  | _ => .ok ()

/-- What is read of the setting anyway cannot be read. -/
def Refused (s : Fixable) (c : ClientConfig) (p : Platform) : Prop :=
  ∃ config loaded e, (SharedConfig.load c.profile).outcome p = (.ok config, loaded) ∧
    s.readAnyway p config.activeProfile = .error e

theorem readAnyway_eq {p p' : Platform} (h : p.SameSettings p') (s : Fixable) (profile : Section) :
    s.readAnyway p profile = s.readAnyway p' profile := by
  simp only [readAnyway, Setting.maxAttempts.resolve_eq h, Setting.retryMode.resolve_eq h]

/-- Five settings are left alone where they are fixed. -/
theorem not_refused (hattempts : s ≠ maxAttempts) (hmode : s ≠ retryMode) (c : ClientConfig)
    (p : Platform) : ¬s.Refused c p := by
  rintro ⟨config, loaded, e, -, hread⟩
  cases s with
  | maxAttempts => exact hattempts rfl
  | retryMode => exact hmode rfl
  | _ => cases hread

end Fixable

/-! ### Single settings of a client -/

namespace ClientConfig

variable {c : ClientConfig} {s : Fixable} {p p' : Platform} {α : Type}

theorem fixedOr_eq {fixed : Option α} {found found' : Except Error α}
    (h : fixed = none → found = found') : fixedOr fixed found = fixedOr fixed found' := by
  rcases fixed with - | value
  · exact h rfl
  · rfl

/-- Where a value is fixed, it matters only whether the other one can be read. -/
theorem map_getD_eq {fixed : Option α} {found found' : Except Error (Option α)} (default : α)
    (hread : (found.map fun _ => ()) = found'.map fun _ => ())
    (hopen : fixed = none → found = found') :
    (found.map fun value? => fixed.getD (value?.getD default))
      = found'.map fun value? => fixed.getD (value?.getD default) := by
  rcases fixed with - | value
  · rw [hopen rfl]
  · rcases found with e | value? <;> rcases found' with e' | value?' <;> cases hread <;> rfl

/-- The search for a region stays in lockstep. -/
theorem lockstep_resolveRegion (hfixed : s.IsFixed c) (profile : Section) :
    (c.resolveRegion profile).Lockstep s.Apart Eq (c.resolveRegion profile) := by
  rw [resolveRegion]
  rcases hregion : c.region with - | region
  · have hne := hfixed.ne (t := .region) (by simp [Fixable.IsFixed, hregion])
    intro p p' h
    have hagreement := Fixable.agreement_apart s
    have hwalk := Provider.inStep_askMembers (σ := RegionSource (Nowhere Region))
      (fun _ _ h => hagreement.now h) (fun _ _ text h => hagreement.warned [text] h)
      (RegionSource.lockstep_ask hagreement fun _ _ h => h.region_eq hne.symm)
      (regionMembers profile) h
    simp only [outcome_of, Provider.resolve, RegionProvider.named, Provider.members, hwalk.result]
    exact ⟨.refl (fun _ => rfl) _, hwalk.platform⟩
  · exact .pure rfl

/-- Where it is known how to try again, all that is read anyway could be read. -/
theorem readAnyway_of_resolveRetry {profile : Section} {retry : RetryOptions}
    (h : c.resolveRetry p profile = .ok retry) (s : Fixable) : s.readAnyway p profile = .ok () := by
  rw [resolveRetry_eq_bind] at h
  rcases hattempts : Setting.maxAttempts.resolve p (some profile) with e | attempts
  · rw [hattempts] at h
    cases h
  rcases hmode : Setting.retryMode.resolve p (some profile) with e | mode
  · rw [hattempts, hmode] at h
    cases h
  cases s with
  | maxAttempts => rw [Fixable.readAnyway, hattempts]; rfl
  | retryMode => rw [Fixable.readAnyway, hmode]; rfl
  | _ => rfl

/-- The way of trying again is the same, if all that is read for it can be read. -/
theorem resolveRetry_eq_of_apart (hfixed : s.IsFixed c) (h : s.Apart p p') {profile : Section}
    (hread : s.readAnyway p profile = .ok ()) (hread' : s.readAnyway p' profile = .ok ()) :
    c.resolveRetry p profile = c.resolveRetry p' profile := by
  have hattempts : Fixable.maxAttempts ≠ s → Setting.maxAttempts.resolve p (some profile)
      = Setting.maxAttempts.resolve p' (some profile) := fun hne => h.resolve_eq hne rfl rfl _
  have hmode : Fixable.retryMode ≠ s → Setting.retryMode.resolve p (some profile)
      = Setting.retryMode.resolve p' (some profile) := fun hne => h.resolve_eq hne rfl rfl _
  rw [resolveRetry_eq_bind, resolveRetry_eq_bind]
  congr 1
  · apply map_getD_eq
    · by_cases hne : Fixable.maxAttempts = s
      · subst hne
        exact hread.trans hread'.symm
      · rw [hattempts hne]
    · exact fun hnone => hattempts (hfixed.ne (by simp [Fixable.IsFixed, hnone]))
  · funext attempts
    congr 1
    apply map_getD_eq
    · by_cases hne : Fixable.retryMode = s
      · subst hne
        exact hread.trans hread'.symm
      · rw [hmode hne]
    · exact fun hnone => hmode (hfixed.ne (by simp [Fixable.IsFixed, hnone]))

/-- What is said about the endpoint is the same. -/
theorem resolveEndpoint_eq_of_apart (hfixed : s.IsFixed c) (h : s.Apart p p')
    (config : SharedConfig) (serviceId : String) :
    c.resolveEndpoint p config serviceId = c.resolveEndpoint p' config serviceId := by
  have hurl : fixedOr (c.endpointUrl.map some) (Endpoint.url p config serviceId)
      = fixedOr (c.endpointUrl.map some) (Endpoint.url p' config serviceId) := by
    refine fixedOr_eq fun hnone => h.url_eq (Ne.symm (hfixed.ne ?_)) config serviceId
    simpa [Fixable.IsFixed] using hnone
  have hdualstack : fixedOr c.useDualstack
        ((Endpoint.useDualstack p config.activeProfile).map (·.getD false))
      = fixedOr c.useDualstack
        ((Endpoint.useDualstack p' config.activeProfile).map (·.getD false)) := by
    refine fixedOr_eq fun hnone => ?_
    rw [Endpoint.useDualstack, Endpoint.useDualstack, h.resolve_eq
      (hfixed.ne (t := .useDualstack) (by simp [Fixable.IsFixed, hnone])) rfl rfl]
  have hfips : fixedOr c.useFips ((Endpoint.useFips p config.activeProfile).map (·.getD false))
      = fixedOr c.useFips ((Endpoint.useFips p' config.activeProfile).map (·.getD false)) := by
    refine fixedOr_eq fun hnone => ?_
    rw [Endpoint.useFips, Endpoint.useFips, h.resolve_eq
      (hfixed.ne (t := .useFips) (by simp [Fixable.IsFixed, hnone])) rfl rfl]
  have hmode : fixedOr c.accountIdMode (Endpoint.accountIdMode p config.activeProfile)
      = fixedOr c.accountIdMode (Endpoint.accountIdMode p' config.activeProfile) := by
    refine fixedOr_eq fun hnone => ?_
    rw [Endpoint.accountIdMode, Endpoint.accountIdMode, h.resolve_eq
      (hfixed.ne (t := .accountIdMode) (by simp [Fixable.IsFixed, hnone])) rfl rfl]
  simp only [resolveEndpoint, hurl, hdualstack, hfips, hmode]

/-! ### All together -/

variable {κ : Type}

/-- A client whose settings are resolved has read all that is read anyway. -/
theorem not_refused_of_resolve {serviceId : String} {resolved : ResolvedConfig κ}
    (h : ((c.resolve serviceId).outcome p).1 = .ok resolved) (s : Fixable) : ¬s.Refused c p := by
  rintro ⟨config, loaded, e, hload, hread⟩
  obtain ⟨-, _, _, hload', -, hretry, -⟩ := exists_of_resolve (Prod.ext h rfl)
  cases hload.symm.trans hload'
  cases (readAnyway_of_resolveRetry hretry s).symm.trans hread

theorem readAnyway_of_not_refused {config : SharedConfig} {loaded after : Platform}
    (h : ¬s.Refused c p) (hload : (SharedConfig.load c.profile).outcome p = (.ok config, loaded))
    (hafter : loaded.SameSettings after) : s.readAnyway after config.activeProfile = .ok () := by
  rw [← s.readAnyway_eq ((SharedConfig.sameSettings_of_load hload).trans hafter)]
  rcases hread : s.readAnyway p config.activeProfile with e | ⟨⟩
  · exact absurd ⟨config, loaded, e, hload, hread⟩ h
  · rfl

/-- On platforms that are apart in a setting that is fixed, and that can be read if it is read
anyway, the client resolves the same. -/
theorem inStep_resolve (hfixed : s.IsFixed c) (h : s.Apart p p') (hread : ¬s.Refused c p)
    (hread' : ¬s.Refused c p') (serviceId : String) :
    EndAlike Eq ((c.resolve (κ := κ) serviceId).outcome p).1
        ((c.resolve serviceId).outcome p').1 ∧
      s.Apart ((c.resolve (κ := κ) serviceId).outcome p).2
        ((c.resolve (κ := κ) serviceId).outcome p').2 := by
  have hagreement := Fixable.agreement_apart s
  simp only [resolve, outcome_bind, outcome_ofExcept, outcome_get]
  rcases c.checkAttempts with e | ⟨⟩
  · exact ⟨.error e, h⟩
  dsimp only
  obtain ⟨hend, hloaded⟩ := SharedConfig.lockstep_load hagreement c.profile p p' h
  rcases hx : (SharedConfig.load c.profile).outcome p with ⟨config?, loaded⟩
  rcases hy : (SharedConfig.load c.profile).outcome p' with ⟨config?', loaded'⟩
  rw [hx, hy] at hend hloaded
  cases hend with
  | error e => exact ⟨.error e, hloaded⟩
  | @ok config _ hconfig =>
    subst hconfig
    dsimp only
    obtain ⟨hend, hafter⟩ :=
      lockstep_resolveRegion hfixed config.activeProfile loaded loaded' hloaded
    have hsame := sameSettings_resolveRegion c config.activeProfile loaded
    have hsame' := sameSettings_resolveRegion c config.activeProfile loaded'
    rcases hx' : (c.resolveRegion config.activeProfile).outcome loaded with ⟨region?, after⟩
    rcases hy' : (c.resolveRegion config.activeProfile).outcome loaded' with ⟨region?', after'⟩
    rw [hx', hy'] at hend hafter
    rw [hx'] at hsame
    rw [hy'] at hsame'
    cases hend with
    | error e => exact ⟨.error e, hafter⟩
    | @ok region _ hregion =>
      subst hregion
      -- what is read anyway is the same before and after, so it can be read after as well
      have hok := readAnyway_of_not_refused hread hx hsame
      have hok' := readAnyway_of_not_refused hread' hy hsame'
      dsimp only
      rw [resolveRetry_eq_of_apart hfixed hafter hok hok',
        resolveEndpoint_eq_of_apart hfixed hafter config serviceId]
      rcases c.resolveRetry after' config.activeProfile with e | retry
      · exact ⟨.error e, hafter⟩
      rcases c.resolveEndpoint after' config serviceId with e | endpoint
      · exact ⟨.error e, hafter⟩
      · exact ⟨.ok rfl, hafter⟩

/-- **What stands under the names of a setting does not matter to a client that fixes it.**  On two
platforms that differ at most there the client resolves to the same settings or fails in the same
way.  For the number of attempts and the manner of trying again that holds as long as what is there
can be read; where it cannot be read, the client fails. -/
theorem resolve_of_apart (hfixed : s.IsFixed c) (h : s.Apart p p') (serviceId : String) :
    let resolved := (c.resolve (κ := κ) serviceId).outcome p
    let resolved' := (c.resolve (κ := κ) serviceId).outcome p'
    (s ≠ .maxAttempts → s ≠ .retryMode → resolved.1 = resolved'.1) ∧
    (¬s.Refused c p → ¬s.Refused c p' →
      resolved.1 = resolved'.1 ∧ s.Apart resolved.2 resolved'.2) ∧
    (s.Refused c p → ∃ e, resolved.1 = .error e) := by
  refine ⟨fun hattempts hmode => ?_, fun hread hread' => ?_, fun hrefused => ?_⟩
  · have hread := s.not_refused hattempts hmode c
    exact (inStep_resolve hfixed h (hread p) (hread p') serviceId).1.eq
  · obtain ⟨hend, hafter⟩ := inStep_resolve hfixed h hread hread' serviceId
    exact ⟨hend.eq, hafter⟩
  · rcases hfound : ((c.resolve (κ := κ) serviceId).outcome p).1 with e | resolved
    · exact ⟨e, rfl⟩
    · exact absurd hrefused (not_refused_of_resolve hfound s)

/-! ### A fixed number of attempts -/

/-- A client that is to try five times. -/
def persistent : ClientConfig := { region := some "eu-west-1", maxAttempts := some 5 }

/-- A machine on which a variable says how often to try. -/
def shell (attempts : String) : Platform := variablePlatform "AWS_MAX_ATTEMPTS" attempts

theorem apart_shell (attempts attempts' : String) :
    Fixable.maxAttempts.Apart (shell attempts) (shell attempts') where
  now := rfl
  systemHome := rfl
  files := rfl
  replies := rfl
  sent := rfl
  warnings := rfl
  environment name hname := by
    have hne : name ≠ "AWS_MAX_ATTEMPTS" := fun heq => hname (.inl heq)
    simp [Platform.envVariable?, Table.get?, shell, variablePlatform, Platform.ofUser,
      List.lookup_cons, beq_eq_false_iff_ne.mpr hne]
  properties _ _ := rfl

theorem load_shell (attempts : String) :
    (SharedConfig.load none).outcome (shell attempts) = (.ok bareConfig, shell attempts) := rfl

theorem refused_shell_iff (attempts : String) :
    Fixable.maxAttempts.Refused persistent (shell attempts) ↔
      ∃ e, Setting.maxAttempts.resolve (shell attempts) (some bareConfig.activeProfile)
        = .error e := by
  constructor
  · rintro ⟨config, loaded, e, hload, hread⟩
    cases (load_shell attempts).symm.trans hload
    rcases hfound : Setting.maxAttempts.resolve (shell attempts) (some bareConfig.activeProfile)
      with e | value?
    · exact ⟨e, rfl⟩
    · rw [Fixable.readAnyway] at hread
      cases (congrArg (Except.map fun _ => ()) hfound).symm.trans hread
  · rintro ⟨e, hfound⟩
    exact ⟨_, _, e, load_shell attempts, congrArg (Except.map fun _ => ()) hfound⟩

/-- Numbers that can be read do not matter, and a text that cannot be read is a failure. -/
theorem resolve_of_apart_shell :
    Fixable.maxAttempts.IsFixed persistent ∧
    ((persistent.resolve (κ := Nowhere Credential) "s3").outcome (shell "7")).1
      = ((persistent.resolve "s3").outcome (shell "9")).1 ∧
    ∃ e, ((persistent.resolve (κ := Nowhere Credential) "s3").outcome (shell "many")).1
      = .error e := by
  have hfixed : Fixable.maxAttempts.IsFixed persistent := rfl
  have hseven : ¬Fixable.maxAttempts.Refused persistent (shell "7") := by
    rw [refused_shell_iff]
    rintro ⟨e, ⟨⟩⟩
  have hnine : ¬Fixable.maxAttempts.Refused persistent (shell "9") := by
    rw [refused_shell_iff]
    rintro ⟨e, ⟨⟩⟩
  have hmany : Fixable.maxAttempts.Refused persistent (shell "many") :=
    (refused_shell_iff "many").mpr ⟨_, rfl⟩
  obtain ⟨-, hsame, -⟩ :=
    resolve_of_apart (κ := Nowhere Credential) hfixed (apart_shell "7" "9") "s3"
  obtain ⟨-, -, hfails⟩ :=
    resolve_of_apart (κ := Nowhere Credential) hfixed (apart_shell "many" "7") "s3"
  exact ⟨hfixed, (hsame hseven hnine).1, hfails hmany⟩

/-- A text that cannot be read is a failure, though the client knows how often to try. -/
theorem resolve_differs_shell :
    Fixable.maxAttempts.IsFixed persistent ∧
    Fixable.maxAttempts.Apart (shell "many") (shell "7") ∧
    (∃ e, ((persistent.resolve (κ := Nowhere Credential) "s3").outcome (shell "many")).1
      = .error e) ∧
    ∃ resolved, ((persistent.resolve (κ := Nowhere Credential) "s3").outcome (shell "7")).1
      = .ok resolved :=
  ⟨rfl, apart_shell "many" "7", ⟨_, rfl⟩, _, rfl⟩

end ClientConfig

end AwsSigning
