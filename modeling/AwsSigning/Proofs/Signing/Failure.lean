/-
AwsSigning/Proofs/Signing/Failure.lean

What is left of a request that could not be signed.

A middleware that signs a request can fail at each of its five steps
(`FailsAt`), and each failure finds the desk as the steps before it have left
it.  The credential and the payload are asked for first, and neither has to do
with the request; the draft is built from what they gave; and the signer puts
back whatever it has changed.  So up to this point a failure leaves the request
and what is said about it as they were:

    credential, payload, draft, signer     AsBefore
    rewinding the payload                  Unrewound

Rewinding comes last.  If it fails, the signing has failed too, but the request
carries its signature, and the signature is noted: nobody takes them back
(`asBefore_or_unrewound`).  With a payload that can always be rewound it never
comes to that (`asBefore_of_rewinds`).
-/
import AwsSigning.Proofs.Signing.Middleware
import AwsSigning.Proofs.Signing.PayloadDigest

namespace AwsSigning.Signing.Middleware

variable {π σ : Type} {base : Draft} {desk desk' : Desk π σ} {e : Error}

/-! ### What a step leaves alone -/

/-- The request and what is said about it are what they were. -/
structure AsBefore (before after : Desk π σ) : Prop where
  request : after.request = before.request
  context : after.context = before.context

/-- Looking at the payload changes the payload and, with a warning, the platform only. -/
theorem exists_of_outcome_payloadValue [ByteStream σ] {result : Except Error PayloadValue}
    (h : payloadValue.outcome desk = (result, desk')) :
    ∃ platform payload, desk' = { desk with platform, payload } := by
  rw [outcome_payloadValue] at h
  split at h
  · exact ⟨_, _, (Prod.mk.inj h).2.symm⟩
  · exact ⟨_, _, (Prod.mk.inj h).2.symm⟩

/-- The steps before the signer have nothing to do with the request. -/
theorem exists_of_read [Source π Credential] [ByteStream σ] {asked : Desk π σ}
    {given : Except Error Credential} {value : Except Error PayloadValue}
    (hgiven : credential.outcome desk = (given, asked))
    (hvalue : payloadValue.outcome asked = (value, desk')) :
    ∃ provider platform payload, desk' = { desk with provider, platform, payload } := by
  obtain ⟨provider, _, rfl⟩ := exists_of_outcome_credential hgiven
  obtain ⟨platform, payload, rfl⟩ := exists_of_outcome_payloadValue hvalue
  exact ⟨provider, platform, payload, rfl⟩

/-- The signer puts back what it has changed, if it fails. -/
theorem exists_of_sign_error {c : Config} {bench bench' : Bench}
    (h : (Signing.sign c).outcome bench = (.error e, bench')) :
    ∃ worked, bench' = { bench with working := worked } := by
  rw [outcome_sign, signed] at h
  split at h
  · cases h
    exact ⟨_, rfl⟩
  · split at h
    · cases h
      exact ⟨_, rfl⟩
    · -- the texts have been worked out by then
      dsimp only at h
      split at h
      · cases h
        exact ⟨_, rfl⟩
      · cases h

/-! ### Where a signing fails -/

section

variable [Source π Credential] [ByteStream σ]

/-- All is done but the last step: the payload could not be rewound. -/
def Unrewound (base : Draft) (desk : Desk π σ) (e : Error) (desk' : Desk π σ) : Prop :=
  ∃ given asked value read config made bench payload,
    credential.outcome desk = (.ok given, asked) ∧
    payloadValue.outcome asked = (.ok value, read) ∧
    (filled base desk given value).build desk.platform.now = .ok config ∧
    (Signing.sign config).outcome ⟨read.request, read.working⟩ = (.ok made, bench) ∧
    Payload.rewind.outcome read.payload = (.error e, payload) ∧
    desk' = signedDesk read made bench payload

/-- A signing fails at one of its five steps, and those before it have been done. -/
inductive FailsAt (base : Draft) (desk : Desk π σ) (e : Error) : Desk π σ → Prop
  | credential {asked : Desk π σ} (h : credential.outcome desk = (.error e, asked)) :
      FailsAt base desk e asked
  | payload {asked read : Desk π σ} {given : Credential}
      (hgiven : credential.outcome desk = (.ok given, asked))
      (h : payloadValue.outcome asked = (.error e, read)) : FailsAt base desk e read
  | draft {asked read : Desk π σ} {given : Credential} {value : PayloadValue}
      (hgiven : credential.outcome desk = (.ok given, asked))
      (hvalue : payloadValue.outcome asked = (.ok value, read))
      (h : (filled base desk given value).build desk.platform.now = .error e) :
      FailsAt base desk e read
  | request {asked read : Desk π σ} {given : Credential} {value : PayloadValue} {config : Config}
      {bench : Bench} (hgiven : credential.outcome desk = (.ok given, asked))
      (hvalue : payloadValue.outcome asked = (.ok value, read))
      (hconfig : (filled base desk given value).build desk.platform.now = .ok config)
      (h : (Signing.sign config).outcome ⟨read.request, read.working⟩ = (.error e, bench)) :
      FailsAt base desk e { read with request := bench.request, working := bench.working }
  | rewind {desk' : Desk π σ} (h : Unrewound base desk e desk') : FailsAt base desk e desk'

/-- **A signing that fails has failed at one of its five steps.** -/
theorem failsAt_of_sign_error (h : (sign base).outcome desk = (.error e, desk')) :
    FailsAt base desk e desk' := by
  simp only [sign, Operation.outcome_bind_eq_error_iff] at h
  -- reading the desk and noting the signature cannot fail, so five cases are left
  rcases h with hget | ⟨_, _, hget, hgiven | ⟨given, asked, hgiven, hvalue |
    ⟨value, read, hvalue, hconfig | ⟨config, _, hconfig, hmade | ⟨made, signed, hmade, hnote |
      ⟨_, _, hnote, hrewind⟩⟩⟩⟩⟩⟩
  · cases hget
  · cases hget
    exact .credential hgiven
  · cases hget
    exact .payload hgiven hvalue
  · cases hget
    obtain ⟨hbuilt, rfl⟩ := Prod.mk.inj hconfig
    exact .draft hgiven hvalue hbuilt
  · cases hget
    obtain ⟨hbuilt, rfl⟩ := Prod.mk.inj hconfig
    obtain ⟨hsigned, rfl⟩ := Prod.mk.inj hmade
    exact .request hgiven hvalue hbuilt (Prod.ext hsigned rfl)
  · cases hnote
  · cases hget
    cases hnote
    obtain ⟨hbuilt, rfl⟩ := Prod.mk.inj hconfig
    obtain ⟨hsigned, rfl⟩ := Prod.mk.inj hmade
    obtain ⟨hrewound, rfl⟩ := Prod.mk.inj hrewind
    exact .rewind ⟨given, asked, value, read, config, made, _, _, hgiven, hvalue, hbuilt,
      Prod.ext hsigned rfl, Prod.ext hrewound rfl, rfl⟩

/-- A payload that could not be rewound is a failure. -/
theorem Unrewound.sign_error (h : Unrewound base desk e desk') :
    (sign base).outcome desk = (.error e, desk') := by
  obtain ⟨given, asked, value, read, config, made, bench, payload, hgiven, hvalue, hbuilt, hsigned,
    hrewound, rfl⟩ := h
  exact sign_of_steps hgiven hvalue hbuilt hsigned hrewound

/-! ### What a failure leaves -/

/-- The request has been signed, and the signature is noted. -/
def Stamped (before after : Desk π σ) : Prop :=
  ∃ config made,
    (Signing.sign config).outcome ⟨before.request, before.working⟩
      = (.ok made, ⟨after.request, after.working⟩) ∧
    after.context = { before.context with signature := some made }

/-- If only the rewinding has failed, the request has been signed. -/
theorem Unrewound.stamped (h : Unrewound base desk e desk') : Stamped desk desk' := by
  obtain ⟨given, asked, value, read, config, made, bench, payload, hgiven, hvalue, -, hsigned, -,
    rfl⟩ := h
  obtain ⟨provider, platform, payload, rfl⟩ := exists_of_read hgiven hvalue
  exact ⟨config, made, hsigned, rfl⟩

/-- A stream that can always be rewound is. -/
theorem not_unrewound (hrewinds : ∀ s : σ, (ByteStream.rewind.outcome s).1 = .ok ()) :
    ¬Unrewound base desk e desk' := by
  rintro ⟨-, -, -, read, -, -, -, payload, -, -, -, -, hrewound, -⟩
  -- nothing but a stream has anything to rewind
  rcases hread : read.payload with - | bytes | s
  · rw [hread] at hrewound
    cases hrewound
  · rw [hread] at hrewound
    cases hrewound
  · rw [hread, Payload.rewind, Operation.outcome_of] at hrewound
    dsimp only at hrewound
    split at hrewound
    · cases (hrewinds s).symm.trans (Prod.mk.inj hrewound).1
    · cases hrewound

/-- A failure finds the request and what is said about it as they were, before the last step. -/
theorem FailsAt.asBefore_or (h : FailsAt base desk e desk') :
    AsBefore desk desk' ∨ Unrewound base desk e desk' := by
  cases h with
  | credential hgiven =>
    obtain ⟨provider, platform, rfl⟩ := exists_of_outcome_credential hgiven
    exact .inl ⟨rfl, rfl⟩
  | payload hgiven hvalue =>
    obtain ⟨provider, platform, payload, rfl⟩ := exists_of_read hgiven hvalue
    exact .inl ⟨rfl, rfl⟩
  | draft hgiven hvalue =>
    obtain ⟨provider, platform, payload, rfl⟩ := exists_of_read hgiven hvalue
    exact .inl ⟨rfl, rfl⟩
  | request hgiven hvalue hconfig hmade =>
    -- the steps before the signer have left the request alone, and the signer has put it back
    obtain ⟨provider, platform, payload, rfl⟩ := exists_of_read hgiven hvalue
    obtain ⟨worked, rfl⟩ := exists_of_sign_error hmade
    exact .inl ⟨rfl, rfl⟩
  | rewind hrewind => exact .inr hrewind

/-- **With a payload that can always be rewound, signing is all or nothing**: a failure leaves the
request and what is said about it as they were. -/
theorem asBefore_of_rewinds (hrewinds : ∀ s : σ, (ByteStream.rewind.outcome s).1 = .ok ())
    (h : (sign base).outcome desk = (.error e, desk')) : AsBefore desk desk' :=
  (failsAt_of_sign_error h).asBefore_or.resolve_right (not_unrewound hrewinds)

/-- **A signing that fails leaves the request and what is said about it as they were, or all is done
but the rewinding of the payload**, and the request has been signed. -/
theorem asBefore_or_unrewound (h : (sign base).outcome desk = (.error e, desk')) :
    AsBefore desk desk' ∨ Unrewound base desk e desk' ∧ Stamped desk desk' :=
  (failsAt_of_sign_error h).asBefore_or.imp_right fun hrewind => ⟨hrewind, hrewind.stamped⟩

end

/-! ### An upload that cannot be rewound -/

/-- How the rewinding fails. -/
def rewindFault : Error := .of (.stated .unexpected "stream reset failed")

/-- The upload is not to be hashed, and its stream cannot be rewound. -/
def brokenDesk : Desk (CredentialProvider (Nowhere Credential)) FaultyStream where
  provider := .source (.fixed uploadCredential)
  platform := { now := .ofSecond 1704067200 }
  request := uploadRequest
  payload := .stream { inner := ⟨uploadChunks, 0⟩, rewindFault := some rewindFault }
  context := { unsignedPayload := true }

/-- A request that is signed in a field carries an authorization. -/
theorem has_authorization_of_sign {c : Config} {bench bench' : Bench} {made : String}
    (hplacement : c.manner.placement = .header)
    (h : (Signing.sign c).outcome bench = (.ok made, bench')) :
    bench'.request.headers.has .authorization = true := by
  obtain ⟨_, _, _, -, -, -, hheaders⟩ := exists_fields_of_sign hplacement h
  obtain ⟨value, hvalues, -⟩ := (signHeaders_spec hheaders).1
  rw [Headers.has_eq_true_iff_values, hvalues]
  exact List.cons_ne_nil value []

theorem exists_unrewound_brokenDesk :
    ∃ desk', Unrewound uploadDraft brokenDesk rewindFault desk' ∧
      desk'.request.headers.has .authorization = true := by
  have hgiven : credential.outcome brokenDesk = (.ok uploadCredential, brokenDesk) := by
    rw [outcome_credential]
    rfl
  obtain ⟨made, bench, hmade⟩ := @exists_sign_ok _ ⟨uploadRequest, none⟩ canSign_upload
  exact ⟨_, ⟨_, _, _, _, _, made, bench, _, hgiven, rfl, rfl, hmade, rfl, rfl⟩,
    has_authorization_of_sign rfl hmade⟩

theorem asBefore_or_unrewound_brokenDesk :
    ∃ desk', (sign uploadDraft).outcome brokenDesk = (.error rewindFault, desk') ∧
      (AsBefore brokenDesk desk' ∨
        Unrewound uploadDraft brokenDesk rewindFault desk' ∧ Stamped brokenDesk desk') := by
  obtain ⟨desk', h, -⟩ := exists_unrewound_brokenDesk
  exact ⟨desk', h.sign_error, asBefore_or_unrewound h.sign_error⟩

/-- The upload fails, and yet the request carries an authorization and a signature is noted. -/
theorem not_asBefore_brokenDesk :
    ∃ desk', (sign uploadDraft).outcome brokenDesk = (.error rewindFault, desk') ∧
      desk'.request ≠ brokenDesk.request ∧ desk'.context.signature ≠ brokenDesk.context.signature := by
  obtain ⟨desk', h, hauthorization⟩ := exists_unrewound_brokenDesk
  obtain ⟨config, made, -, hcontext⟩ := h.stamped
  refine ⟨desk', h.sign_error, ?_, ?_⟩
  · intro hrequest
    rw [hrequest] at hauthorization
    cases hauthorization
  · rw [hcontext]
    exact Option.some_ne_none made

end AwsSigning.Signing.Middleware
