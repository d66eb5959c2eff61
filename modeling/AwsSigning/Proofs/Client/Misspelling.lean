/-
AwsSigning/Proofs/Client/Misspelling.lean

A client whose settings are misspelt.

The first text that a setting has decides, whether it can be read or not.  For
a single setting that is the whole story (`Setting.Decides.resolve_eq`).  A
client looks up many settings in a row, some of them with a default of their
own and one of them only to learn whether others count; still it has no way
round a text that cannot be read.  It fails as soon as one setting that it
looks up is misspelt, whatever the places behind say (`exists_error_of_misreads`).

The number of attempts and the manner of trying again are looked up even by a
client that fixes them, and whether configured endpoints count is looked up by
a client without an endpoint of its own.
-/
import AwsSigning.Proofs.Client
import AwsSigning.Proofs.Setting

namespace AwsSigning

open Operation

variable {κ : Type} {p : Platform} {config : SharedConfig} {profile : Section} {serviceId : String}

/-- Where the endpoint is known, it is known whether configured endpoints count. -/
theorem Endpoint.exists_ignored_of_url {url? : Option String}
    (h : Endpoint.url p config serviceId = .ok url?) :
    ∃ ignored?, Setting.ignoreEndpointUrls.resolve p (some config.activeProfile)
      = .ok ignored? := by
  obtain ⟨ignored?, hignored, -⟩ := bind_eq_ok_iff.mp h
  exact ⟨ignored?, hignored⟩

namespace ClientConfig

variable {c : ClientConfig}

/-- A setting that the client looks up is misspelt. -/
inductive Misreads (c : ClientConfig) (p : Platform) (profile : Section) : Prop
  | maxAttempts (h : Setting.maxAttempts.Misspelt p (some profile))
  | retryMode (h : Setting.retryMode.Misspelt p (some profile))
  | useFips (hopen : c.useFips = none) (h : Setting.useFips.Misspelt p (some profile))
  | useDualstack (hopen : c.useDualstack = none)
      (h : Setting.useDualstack.Misspelt p (some profile))
  | accountIdMode (hopen : c.accountIdMode = none)
      (h : Setting.accountIdMode.Misspelt p (some profile))
  | ignoreEndpointUrls (hopen : c.endpointUrl = none)
      (h : Setting.ignoreEndpointUrls.Misspelt p (some profile))

/-- A value that is left open is looked up, and known only if the lookup succeeds. -/
theorem exists_of_fixedOr_map {α β : Type} {fixed : Option β} {found : Except Error (Option α)}
    {f : Option α → β} {value : β} (hopen : fixed = none)
    (h : fixedOr fixed (found.map f) = .ok value) : ∃ value?, found = .ok value? := by
  subst hopen
  rcases found with e | value?
  · cases h
  · exact ⟨value?, rfl⟩

/-- **A client that looks up a misspelt setting does not find all its settings.** -/
theorem Misreads.false_of_found {retry : RetryOptions} {endpoint : EndpointOptions}
    (h : c.Misreads p config.activeProfile)
    (hretry : c.resolveRetry p config.activeProfile = .ok retry)
    (hendpoint : c.resolveEndpoint p config serviceId = .ok endpoint) : False := by
  obtain ⟨attempts?, mode?, hattempts, hmode, -⟩ := resolveRetry_eq_ok_iff.mp hretry
  obtain ⟨hurl, hdualstack, hfips, haccountId⟩ := resolveEndpoint_eq_ok_iff.mp hendpoint
  cases h with
  | maxAttempts h => exact h.resolve_ne_ok _ hattempts
  | retryMode h => exact h.resolve_ne_ok _ hmode
  | useFips hopen h =>
    obtain ⟨value?, hvalue⟩ := exists_of_fixedOr_map hopen hfips
    exact h.resolve_ne_ok _ hvalue
  | useDualstack hopen h =>
    obtain ⟨value?, hvalue⟩ := exists_of_fixedOr_map hopen hdualstack
    exact h.resolve_ne_ok _ hvalue
  | accountIdMode hopen h =>
    obtain ⟨value?, hvalue⟩ := exists_of_fixedOr_map hopen haccountId
    exact h.resolve_ne_ok _ hvalue
  | ignoreEndpointUrls hopen h =>
    rw [hopen] at hurl
    obtain ⟨ignored?, hignored⟩ := Endpoint.exists_ignored_of_url hurl
    exact h.resolve_ne_ok _ hignored

/-- **A client that looks up a misspelt setting is not resolved**, whichever profile it loads. -/
theorem exists_error_of_misreads
    (h : ∀ config loaded, (SharedConfig.load c.profile).outcome p = (.ok config, loaded) →
      c.Misreads p config.activeProfile) (serviceId : String) :
    ∃ e, ((c.resolve (κ := κ) serviceId).outcome p).1 = .error e := by
  rcases hrun : (c.resolve (κ := κ) serviceId).outcome p with ⟨e | resolved, after⟩
  · exact ⟨e, rfl⟩
  · obtain ⟨-, config, loaded, hload, -, hretry, hendpoint⟩ := exists_of_resolve hrun
    exact ((h config loaded hload).false_of_found hretry hendpoint).elim

/-! ### Both together -/

/-- **The first text of a setting decides, and a text that cannot be read is never passed over.**
For any setting whatsoever, the text in the first place that has one is read, and a failure names
that place; the default counts if there is no text at all; and what stands in lower places makes no
difference.  A client that looks up a setting whose deciding text cannot be read is not resolved. -/
theorem decided_by_first_text :
    (∀ {α : Type} (s : Setting α) (p : Platform) (profile? : Option Section),
      ((∃ place text, s.Decides p profile? place text) ∨ s.IsUnset p profile?) ∧
      (s.IsUnset p profile? → s.resolve p profile? = .ok s.default) ∧
      ∀ place text, s.Decides p profile? place text →
        s.resolve p profile? =
          (match s.read text with
          | .ok value => .ok (some value)
          | .error e => .error { e with context := e.context ++ [s.placeName profile? place] }) ∧
        ∀ (p' : Platform) (profile?' : Option Section),
          (∀ other : Setting.Place, other.rank ≤ place.rank →
            s.text? p' profile?' other = s.text? p profile? other) →
          s.placeName profile?' place = s.placeName profile? place →
          s.resolve p' profile?' = s.resolve p profile?) ∧
    ∀ {κ : Type} (c : ClientConfig) (p : Platform) (serviceId : String),
      (∀ config loaded, (SharedConfig.load c.profile).outcome p = (.ok config, loaded) →
        c.Misreads p config.activeProfile) →
      ∃ e, ((c.resolve (κ := κ) serviceId).outcome p).1 = .error e := by
  refine ⟨fun s p profile? => ⟨s.decides_or_isUnset p profile?, ?_, ?_⟩, ?_⟩
  · exact fun hunset => hunset.resolve_eq
  · intro place text hdecides
    refine ⟨hdecides.resolve_eq, fun p' profile?' hsame hname => ?_⟩
    exact hdecides.resolve_eq_of_same hsame hname
  · exact fun c p serviceId hmisreads => exists_error_of_misreads hmisreads serviceId

/-- A machine on which a property says `many`, though the variable and the profile have numbers. -/
def boastful : Platform :=
  { Platform.ofUser [("AWS_REGION", "eu-west-1"), ("AWS_MAX_ATTEMPTS", "5")]
      [("/home/dev/.aws/config", .contents (Utf8.ofString "[default]\nmax_attempts = 7\n"))] with
    properties := [("aws.maxAttempts", "many")] }

/-- The profile there. -/
def boastfulProfile : Section := { name := "default", properties := [("max_attempts", "7")] }

/-- The numbers are not looked at, and no client is resolved. -/
theorem decided_by_first_text_boastful :
    Setting.maxAttempts.Decides boastful (some boastfulProfile) .property "many" ∧
    Setting.maxAttempts.resolve boastful (some boastfulProfile)
      = .error { (Error.setting (.notInteger "many")).causedOutside with
          context := ["property: aws.maxAttempts"] } ∧
    ∃ e, ((({} : ClientConfig).resolve (κ := Nowhere Credential) "s3").outcome boastful).1
      = .error e := by
  have hdecides : Setting.maxAttempts.Decides boastful (some boastfulProfile) .property "many" :=
    Setting.decides_property rfl
  have hread : Setting.maxAttempts.read "many"
      = .error (Error.setting (.notInteger "many")).causedOutside := rfl
  obtain ⟨hlaw, hclient⟩ := decided_by_first_text
  obtain ⟨-, -, hdecided⟩ := hlaw Setting.maxAttempts boastful (some boastfulProfile)
  refine ⟨hdecides, (hdecided _ _ hdecides).1, hclient {} boastful "s3" ?_⟩
  intro config loaded hload
  have hprofile : config.activeProfile = boastfulProfile := by
    have hactive : ((SharedConfig.load none).outcome boastful).1.toOption.map (·.activeProfile)
        = some boastfulProfile := by decide +kernel
    rw [hload] at hactive
    exact Option.some.inj hactive
  rw [hprofile]
  exact .maxAttempts ⟨.property, "many", _, hdecides, hread⟩

end ClientConfig
end AwsSigning
