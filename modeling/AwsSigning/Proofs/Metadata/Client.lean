/-
AwsSigning/Proofs/Metadata/Client.lean

The metadata service, asked on platforms that agree.

A client of the metadata service looks at the clock, at a setting and at the
replies that are still to come, and at nothing else of a platform.  So one
client gives the same answer on platforms that agree on these, and is the same
client afterwards, with the same token in use.
-/
import AwsSigning.Proofs.Platform
import AwsSigning.Provider.Regions

namespace AwsSigning

open Operation

variable {R : Platform → Platform → Prop}

namespace Metadata

theorem isDisabled_eq (hR : Platform.Agreement R) {p p' : Platform} (h : R p p') :
    isDisabled p = isDisabled p' := by
  rw [isDisabled, isDisabled, Setting.metadataDisabled.resolveFromProcess_eq_of_agreement hR h
    (by simp [Platform.ambientVariables]) (by simp [Platform.ambientProperties])]

namespace Client

theorem base_eq (hR : Platform.Agreement R) {p p' : Platform} (client : Client) (h : R p p') :
    client.base p = client.base p' := by
  rw [base, base, Setting.metadataEndpoint.resolveFromProcess_eq_of_agreement hR h
    (by simp [Platform.ambientVariables]) (by simp [Platform.ambientProperties])]

theorem lockstep_currentBase (hR : Platform.Agreement R) :
    currentBase.Lockstep (Beside R) Eq currentBase := by
  refine Lockstep.get.bind ?_
  rintro ⟨client, p⟩ ⟨_, p'⟩ ⟨rfl, h⟩
  dsimp only
  rw [base_eq hR client h]
  exact .ofExcept_self _

theorem lockstep_send (hR : Platform.Agreement R) (request : Outgoing) :
    (onSecond (Platform.send request) : Operation Session Response).Lockstep (Beside R) Eq
      (onSecond (Platform.send request)) := by
  apply (hR.send request).focus
  · exact fun s t h => h.2
  · exact fun s t p p' h hp => ⟨h.1, hp⟩

theorem lockstep_fetchToken (hR : Platform.Agreement R) :
    fetchToken.Lockstep (Beside R) Eq fetchToken := by
  refine (lockstep_currentBase hR).bind_same fun endpoint => ?_
  refine (Lockstep.ofExcept_self _).bind_same fun head => ?_
  refine ((lockstep_send hR _).mapFailure _).bind_same fun response => ?_
  refine (Lockstep.ofExcept_self _).bind_same fun token => ?_
  -- the token is good for some time from now, which is the same time on both sides
  refine Lockstep.get.bind ?_
  rintro ⟨client, p⟩ ⟨_, p'⟩ ⟨rfl, h⟩
  dsimp only
  rw [hR.now h]
  exact .pure rfl

theorem lockstep_currentToken (hR : Platform.Agreement R) :
    currentToken.Lockstep (Beside R) Eq currentToken := by
  apply Cached.lockstep_getOrLoad (lockstep_fetchToken hR)
  · exact fun s t h => congrArg Client.token h.1
  · exact fun s t cell h => ⟨by rw [h.1], h.2⟩
  · exact fun s t h => hR.now h.2

theorem lockstep_ask (hR : Platform.Agreement R) (path token : String) :
    (ask path token).Lockstep (Beside R) Eq (ask path token) := by
  refine (lockstep_currentBase hR).bind_same fun endpoint => ?_
  refine (Lockstep.ofExcept_self _).bind_same fun head => ?_
  exact (lockstep_send hR _).mapFailure _

theorem lockstep_forgetToken : forgetToken.Lockstep (Beside R) Eq forgetToken := by
  apply Lockstep.modify
  exact fun s t h => ⟨by rw [h.1], h.2⟩

/-- **What stands under a path is the same on platforms that agree.** -/
theorem lockstep_fetch (hR : Platform.Agreement R) (path : String) :
    (fetch path).Lockstep (Beside R) Eq (fetch path) := by
  refine (lockstep_currentToken hR).bind_same fun token => ?_
  refine (lockstep_ask hR path token).bind_same fun first => ?_
  split
  · refine lockstep_forgetToken.bind_same fun _ => ?_
    refine (lockstep_currentToken hR).bind_same fun token => ?_
    refine (lockstep_ask hR path token).bind_same fun second => ?_
    exact .ofExcept_self _
  · exact .ofExcept_self _

end Client

/-- **The credential of the role of the instance is the same on platforms that agree.** -/
theorem lockstep_fetchCredential (hR : Platform.Agreement R) :
    fetchCredential.Lockstep (Beside R) Eq fetchCredential := by
  refine Lockstep.get.bind ?_
  rintro ⟨client, p⟩ ⟨_, p'⟩ ⟨rfl, h⟩
  dsimp only
  rw [isDisabled_eq hR h]
  refine (Lockstep.ofExcept_self _).bind_same fun disabled => ?_
  split
  · exact .pure rfl
  · refine (Client.lockstep_fetch hR credentialsPath).bind_same fun roles => ?_
    split
    · exact .ofExcept_self _
    · refine ((Client.lockstep_fetch hR _).mapFailure _).bind_same fun content => ?_
      exact (Lockstep.ofExcept_self _).map fun _ _ => congrArg some

namespace Locator

theorem lockstep_load (hR : Platform.Agreement R) : load.Lockstep (Beside R) Eq load := by
  refine Lockstep.focus (R := Beside R) ?_ ?_ ?_
  · exact (Client.lockstep_fetch hR regionPath).bind_same fun text => .pure rfl
  · exact fun s t h => ⟨congrArg Locator.client h.1, h.2⟩
  · exact fun s t u v h huv => ⟨by rw [h.1, huv.1], huv.2⟩

/-- **The region of the instance is the same on platforms that agree.** -/
theorem lockstep_fetch (hR : Platform.Agreement R) : fetch.Lockstep (Beside R) Eq fetch := by
  refine Lockstep.get.bind ?_
  rintro ⟨locator, p⟩ ⟨_, p'⟩ ⟨rfl, h⟩
  dsimp only
  rw [isDisabled_eq hR h]
  refine (Lockstep.ofExcept_self _).bind_same fun disabled => ?_
  split
  · exact .pure rfl
  · refine Lockstep.map (Q := Eq) ?_ fun _ _ => congrArg some
    apply Cached.lockstep_getOrLoad (lockstep_load hR)
    · exact fun s t h => congrArg Locator.region h.1
    · exact fun s t cell h => ⟨by rw [h.1], h.2⟩
    · exact fun s t h => hR.now h.2

end Locator

end Metadata

end AwsSigning
