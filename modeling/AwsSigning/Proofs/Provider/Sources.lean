/-
AwsSigning/Proofs/Provider/Sources.lean

The sources of credentials and regions, asked on platforms that are alike.

Every source that this library has looks at nothing in which platforms that
are alike may differ, so it gives the same value on both.  For regions more is
true: they are found in lockstep wherever two platforms agree on what is looked
at (`RegionSource.lockstep_ask`).  A profile may even be named in two ways, as
long as the same is loaded either way; what fails then fails with the same
reason, though it is reported under another name.
-/
import AwsSigning.Proofs.Metadata.Client
import AwsSigning.Proofs.Provider.Asking
import AwsSigning.Proofs.SharedConfig.Loading

namespace AwsSigning

open Operation

variable {origin p p' : Platform} {R : Platform → Platform → Prop} {κ : Type}

/-! ### Credentials -/

namespace CredentialSource

/-- Sources of one kind, but for the name under which a profile is loaded. -/
inductive SameKind (origin : Platform) : CredentialSource κ → CredentialSource κ → Prop
  | process : SameKind origin .process .process
  | profile {name? other? : Option String}
      (h : ∀ p, origin.SameSettings p →
        (SharedConfig.load name?).outcome p = (SharedConfig.load other?).outcome p) :
      SameKind origin (.profile name?) (.profile other?)
  | metadata (client : Metadata.Client) : SameKind origin (.metadata client) (.metadata client)
  | fixed (credential : Credential) : SameKind origin (.fixed credential) (.fixed credential)

end CredentialSource

namespace Credential

theorem ofProcess_eq (h : p.SameSettings p') : ofProcess p = ofProcess p' := by
  simp only [ofProcess, Setting.accessKeyId.resolveFromProcess_eq h,
    Setting.secretAccessKey.resolveFromProcess_eq h, Setting.sessionToken.resolveFromProcess_eq h]

theorem lockstep_ofSharedConfig (hR : Platform.Agreement R) (profile? : Option String) :
    (ofSharedConfig profile?).Lockstep R Eq (ofSharedConfig profile?) := by
  refine (SharedConfig.lockstep_load hR profile?).bind_same fun config => ?_
  exact .ofExcept_self _

end Credential

/-- **Sources of credentials are asked alike**, whichever way a profile is named. -/
theorem CredentialSource.askedAlike_sameKind [Source κ Credential] (origin : Platform) :
    AskedAlike origin (SameKind origin (κ := κ)) := by
  intro s s' p p' hs hp
  cases hs with
  | process =>
    refine ⟨?_, .process, hp⟩
    show given (Credential.ofProcess p) = given (Credential.ofProcess p')
    rw [Credential.ofProcess_eq hp.same]
  | @profile name? other? h =>
    -- from one platform to the other under the first name, then from one name to the other
    have hload : (Credential.ofSharedConfig name?).outcome p'
        = (Credential.ofSharedConfig other?).outcome p' := by
      simp only [Credential.ofSharedConfig, outcome_bind, h p' hp.settings']
    obtain ⟨hend, hafter⟩ :=
      Credential.lockstep_ofSharedConfig (Platform.agreement_alike origin) name? p p' hp
    rw [hload] at hend hafter
    exact ⟨congrArg given hend.eq, .profile h, hafter⟩
  | metadata client =>
    obtain ⟨hend, hclient, hafter⟩ :=
      Metadata.lockstep_fetchCredential (Platform.agreement_alike origin) (client, p) (client, p')
        ⟨rfl, hp⟩
    have hkind : ∀ after after' : Metadata.Client, after = after' →
        SameKind (κ := κ) origin (.metadata after) (.metadata after') := by
      rintro after _ rfl
      exact .metadata after
    exact ⟨congrArg given hend.eq, hkind _ _ hclient, hafter⟩
  | fixed credential => exact ⟨rfl, .fixed credential, hp⟩

/-! ### Regions -/

namespace Region

theorem ofProcess_eq (h : p.SameSettings p') : ofProcess p = ofProcess p' := by
  rw [ofProcess, ofProcess, Setting.region.resolveFromProcess_eq h]

/-- The process has a region or none, and never fails. -/
theorem exists_ofProcess (p : Platform) : ∃ region?, ofProcess p = .ok region? := by
  obtain ⟨text?, htext⟩ := Setting.exists_resolve_of_readText (s := Setting.region) rfl p none
  refine ⟨text?.bind ofName?, ?_⟩
  rw [ofProcess, Setting.resolveFromProcess, htext]
  rfl

theorem lockstep_ofSharedConfig (hR : Platform.Agreement R) (profile? : Option String) :
    (ofSharedConfig profile?).Lockstep R Eq (ofSharedConfig profile?) := by
  refine (SharedConfig.lockstep_load hR profile?).bind_same fun config => ?_
  exact .pure rfl

end Region

/-- **A source of regions is asked in lockstep on platforms that agree**, and that agree on the
region of the process. -/
theorem RegionSource.lockstep_ask (hR : Platform.Agreement R)
    (hprocess : ∀ p p', R p p' → Region.ofProcess p = Region.ofProcess p') :
    (RegionSource.ask (κ := Nowhere Region)).Lockstep (Beside R) Eq RegionSource.ask := by
  rintro ⟨source, p⟩ ⟨_, p'⟩ ⟨rfl, h⟩
  rcases source with - | profile? | locator | region | nowhere
  · simp only [ask, outcome_of, hprocess p p' h]
    exact ⟨.refl (fun _ => rfl) _, rfl, h⟩
  · obtain ⟨hend, hafter⟩ := Region.lockstep_ofSharedConfig hR profile? p p' h
    exact ⟨hend, rfl, hafter⟩
  · obtain ⟨hend, hlocator, hafter⟩ :=
      Metadata.Locator.lockstep_fetch hR (locator, p) (locator, p') ⟨rfl, h⟩
    exact ⟨hend, congrArg RegionSource.metadata hlocator, hafter⟩
  · exact ⟨.ok rfl, rfl, h⟩
  · cases nowhere

/-- **A source of regions is asked alike on platforms that are alike.** -/
theorem RegionSource.askedAlike_eq (origin : Platform) :
    AskedAlike origin (Eq (α := RegionSource (Nowhere Region))) := by
  rintro source _ p p' rfl hp
  obtain ⟨hend, hsource, hafter⟩ := RegionSource.lockstep_ask (Platform.agreement_alike origin)
    (fun _ _ h => Region.ofProcess_eq h.same) (source, p) (source, p') ⟨rfl, hp⟩
  exact ⟨congrArg given hend.eq, hsource, hafter⟩

/-- The source of the process gives what the process has. -/
theorem RegionProvider.ask_process {region? : Option Region} (h : Region.ofProcess p = .ok region?) :
    (Provider.source .process : RegionProvider (Nowhere Region)).ask p
      = (.ok region?, .source .process, p) := by
  simp only [Provider.ask, Source.ask, RegionSource.ask, outcome_of, h]

end AwsSigning
