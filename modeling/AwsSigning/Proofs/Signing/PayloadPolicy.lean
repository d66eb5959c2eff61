/-
AwsSigning/Proofs/Signing/PayloadPolicy.lean

What is signed in place of a payload, and what it costs.

A middleware has rules for what is signed in place of a payload, and the first
one that applies counts (`rule?`):

    the context says what is signed        that
    the payload is not to be signed        the word for it
    there is no payload                    the digest of nothing
    the payload cannot be read twice       the word for it, and a warning

Only if none applies the payload is looked into, and then the digest of what is
left to be read of it is signed.  Up to then no chunk is asked for, and a stream
that cannot be read twice is not called at all, however the signing ends
(`Spared`).
-/
import AwsSigning.Proofs.Payload.Recording
import AwsSigning.Proofs.Signing.Failure
import AwsSigning.Proofs.Signing.QuerySignature
import AwsSigning.Proofs.Signing.Remainder

namespace AwsSigning.Signing

open ByteStream

/-! ### The field and the last line -/

/-- A line stands at the end of a text. -/
def IsLastLine (line text : String) : Prop :=
  '\n' ∉ line.toList ∧ ∃ before, text = before ++ "\n" ++ line

/-- What is shown in a field is one line. -/
theorem Shows.newline_not_mem {hs : Headers} {name : HeaderName} {text : String}
    (h : Shows hs name text) : '\n' ∉ text.toList := by
  intro hmem
  obtain ⟨value, -, hbytes⟩ := h
  have hbyte : UInt8.ofNat '\n'.toNat ∈ value.bytes :=
    hbytes ▸ Utf8.mem_ofString (by decide) hmem
  have hlegal : isValueByte (UInt8.ofNat '\n'.toNat) = true :=
    List.all_eq_true.mp value.legal _ hbyte
  revert hlegal
  decide

/-- **A request shows what was signed in place of its payload**, if that is to be sent. -/
theorem shows_payload_of_sign {c : Config} {bench bench' : Bench} {made : String}
    (hheader : c.manner.payloadHeader = .contentSha256)
    (h : (sign c).outcome bench = (.ok made, bench')) :
    Shows bench'.request.headers .amzContentSha256 c.payload.text := by
  obtain ⟨-, s, canonical, request, hform, -, hdeliver, rfl⟩ := sign_eq_ok_iff.mp h
  obtain ⟨parts, -, hfields⟩ := (prepared_of_canonicalize hform).1.headers
  have hshows := shows_payload_of_canonicalHeaders hheader hfields
  rcases hplacement : c.manner.placement with - | -
  · obtain ⟨headers, uri, hheaders, -, rfl⟩ := (deliver_header_iff hplacement).mp hdeliver
    exact (untouched_rest_of_signHeaders hheaders _ (by decide) (by decide)).shows hshows
  · obtain ⟨uri, -, rfl⟩ := (deliver_query_iff hplacement).mp hdeliver
    exact hshows

namespace Middleware

variable {π σ : Type} {base : Draft}

/-! ### What happens to the payload -/

/-- No more is done to a payload than has to be: chunks are asked for only if no rule applies, and
a payload that cannot be read twice is left alone. -/
structure Spared [ByteStream σ] (rule : Option Rule) (before later : Payload (Recorded σ)) :
    Prop where
  calls : ∃ made, Payload.Called before later made ∧ (.next ∈ made → rule = none)
  unbounded : before.isUnbounded = true → later = before

section

variable [ByteStream σ] {rule : Option Rule} {desk desk' asked read : Desk π (Recorded σ)}

theorem Spared.refl (rule : Option Rule) (payload : Payload (Recorded σ)) :
    Spared rule payload payload :=
  ⟨⟨[], .refl payload, fun h => by cases h⟩, fun _ => rfl⟩

/-- The rewinding in the end spares a payload. -/
theorem Spared.rewind {before later : Payload (Recorded σ)} (h : Spared rule before later) :
    Spared rule before (Payload.rewind.outcome later).2 := by
  constructor
  · obtain ⟨made, hcalled, hmade⟩ := h.calls
    obtain ⟨more, hmore, hnext⟩ := later.exists_called_rewind
    refine ⟨made ++ more, hcalled.trans hmore, fun hmem => ?_⟩
    exact hmade ((List.mem_append.mp hmem).resolve_right hnext)
  · intro hunbounded
    obtain rfl := h.unbounded hunbounded
    rw [Payload.outcome_rewind_of_isUnbounded hunbounded]

/-- There is a rule for payloads that cannot be read twice. -/
theorem rule?_ne_none_of_isUnbounded {σ : Type} [ByteStream σ] {context : RequestContext}
    {payload : Payload σ} (h : payload.isUnbounded = true) : rule? context payload ≠ none := by
  rw [rule?, ne_eq, List.findSome?_eq_none_iff]
  intro hnone
  have hlast := hnone (some { value := .unsigned, warnings := [unboundedWarning] })
    (by simp [rules, h])
  cases hlast

/-- **Settling what is signed spares the payload.** -/
theorem spared_payloadValue {result : Except Error PayloadValue}
    (h : payloadValue.outcome desk = (result, read)) :
    Spared (rule? desk.context desk.payload) desk.payload read.payload := by
  rw [outcome_payloadValue] at h
  rcases hrule : rule? desk.context desk.payload with - | rule
  · rw [hrule] at h
    obtain ⟨-, rfl⟩ := Prod.mk.inj h
    obtain ⟨made, hcalled⟩ := desk.payload.exists_called_hexDigest
    exact ⟨⟨made, hcalled, fun _ => rfl⟩,
      fun hunbounded => absurd hrule (rule?_ne_none_of_isUnbounded hunbounded)⟩
  · rw [hrule] at h
    obtain ⟨-, rfl⟩ := Prod.mk.inj h
    exact .refl _ _

variable [Source π Credential]

/-- Asking for the credential does not touch the payload. -/
theorem spared_of_read {given : Except Error Credential} {value : Except Error PayloadValue}
    (hgiven : credential.outcome desk = (given, asked))
    (hvalue : payloadValue.outcome asked = (value, read)) :
    Spared (rule? desk.context desk.payload) desk.payload read.payload := by
  obtain ⟨provider, platform, rfl⟩ := exists_of_outcome_credential hgiven
  have hspared := spared_payloadValue hvalue
  exact hspared

/-- Neither does anything else, until the payload is rewound. -/
theorem spared_of_rewound {given : Except Error Credential} {value : Except Error PayloadValue}
    {payload : Payload (Recorded σ)} {result : Except Error Unit}
    (hgiven : credential.outcome desk = (given, asked))
    (hvalue : payloadValue.outcome asked = (value, read))
    (hrewound : Payload.rewind.outcome read.payload = (result, payload)) :
    Spared (rule? desk.context desk.payload) desk.payload payload := by
  have hspared := (spared_of_read hgiven hvalue).rewind
  rwa [hrewound] at hspared

/-- **Signing spares the payload, however it ends.** -/
theorem spared_of_sign {result : Except Error Unit}
    (h : (sign base).outcome desk = (result, desk')) :
    Spared (rule? desk.context desk.payload) desk.payload desk'.payload := by
  rcases result with e | ⟨⟩
  · cases failsAt_of_sign_error h with
    | credential hgiven =>
      obtain ⟨provider, platform, rfl⟩ := exists_of_outcome_credential hgiven
      exact .refl _ _
    | payload hgiven hvalue => exact spared_of_read hgiven hvalue
    | draft hgiven hvalue => exact spared_of_read hgiven hvalue
    | request hgiven hvalue =>
      have hspared := spared_of_read hgiven hvalue
      exact hspared
    | rewind hrewind =>
      obtain ⟨_, _, _, _, _, _, _, _, hgiven, hvalue, -, -, hrewound, rfl⟩ := hrewind
      exact spared_of_rewound hgiven hvalue hrewound
  · obtain ⟨_, _, _, _, _, _, _, _, hgiven, hvalue, -, -, hrewound, rfl⟩ := sign_eq_ok_iff.mp h
    exact spared_of_rewound hgiven hvalue hrewound

end

/-! ### What is signed -/

/-- A text is signed in place of a payload: the rule says so, or no rule applies and the text is the
digest of what is left to be read. -/
structure Stands [ByteStream σ] (rule : Option Rule) (payload : Payload σ) (text : String) :
    Prop where
  ruled : ∀ r, rule = some r → text = r.value.text
  hashed : rule = none → ∃ rest, payload.content = .ok rest ∧ text = Sha256.hexDigest rest

/-- A rule is followed. -/
theorem stands_rule [ByteStream σ] (rule : Rule) (payload : Payload σ) :
    Stands (some rule) payload rule.value.text where
  ruled _ h := by rw [Option.some.inj h]
  hashed h := by cases h

/-- A digest is taken if there is no rule. -/
theorem stands_digest [ByteStream σ] {payload : Payload σ} {rest : Bytes}
    (h : payload.content = .ok rest) : Stands none payload (Sha256.hexDigest rest) where
  ruled _ h := by cases h
  hashed _ := ⟨rest, h, rfl⟩

/-- The digest is that of the whole payload exactly if what was read before makes no difference. -/
theorem Stands.eq_hexDigest_iff [ByteStream σ] {payload : Payload σ} {text : String} {rest : Bytes}
    (h : Stands none payload text) (hrest : payload.content = .ok rest) (whole : Bytes) :
    text = Sha256.hexDigest whole ↔ Sha256.hexDigest rest = Sha256.hexDigest whole := by
  obtain ⟨rest', hrest', rfl⟩ := h.hashed rfl
  rw [Except.ok.inj (hrest.symm.trans hrest')]

section

variable [ByteStream σ] {desk desk' asked read : Desk π σ}

/-- **What is settled is what the rules say**, and there are no other warnings. -/
theorem stands_of_payloadValue {value : PayloadValue}
    (h : payloadValue.outcome desk = (.ok value, read)) :
    Stands (rule? desk.context desk.payload) desk.payload value.text ∧
      read.platform.warnings
        = desk.platform.warnings ++ warnings (rule? desk.context desk.payload) := by
  rw [outcome_payloadValue] at h
  rcases hrule : rule? desk.context desk.payload with - | rule
  · rw [hrule] at h
    obtain ⟨hdigest, rfl⟩ := Prod.mk.inj h
    refine ⟨?_, (List.append_nil _).symm⟩
    rcases hhex : Payload.hexDigest.outcome desk.payload with ⟨e | digest, later⟩
    · rw [hhex] at hdigest
      cases hdigest
    · rw [hhex] at hdigest
      cases hdigest
      obtain ⟨rest, hrest, rfl⟩ := Payload.exists_content_of_hexDigest hhex
      exact stands_digest hrest
  · rw [hrule] at h
    obtain ⟨hvalue, rfl⟩ := Prod.mk.inj h
    cases hvalue
    exact ⟨stands_rule rule _, rfl⟩

variable [Source π Credential]

/-- A request is signed with what was settled, and shows it if it is asked to. -/
theorem exists_signed_of_sign (h : (sign base).outcome desk = (.ok (), desk')) :
    ∃ config canonical, desk'.working = some (working config canonical) ∧
      desk'.context.signature = some (signature config (working config canonical).stringToSign) ∧
      Stands (rule? desk.context desk.payload) desk.payload canonical.payload ∧
      desk'.platform.warnings = (credential.outcome desk).2.platform.warnings
        ++ warnings (rule? desk.context desk.payload) ∧
      (desk.context.payloadHeader.getD base.manner.payloadHeader = .contentSha256 →
        Shows desk'.request.headers .amzContentSha256 canonical.payload) := by
  obtain ⟨given, asked, value, read, config, made, bench, payload, hgiven, hvalue, hbuild, hsigned,
    -, rfl⟩ := sign_eq_ok_iff.mp h
  have hconfig : config.payload = value := payload_of_build hbuild
  have hheader : config.manner.payloadHeader
      = desk.context.payloadHeader.getD base.manner.payloadHeader := by
    rw [(manner_of_build hbuild).1]
    rfl
  rw [hgiven]
  obtain ⟨provider, platform, rfl⟩ := exists_of_outcome_credential hgiven
  obtain ⟨hstands, hwarnings⟩ := stands_of_payloadValue hvalue
  have hshows := fun hasked => shows_payload_of_sign (hheader.trans hasked) hsigned
  obtain ⟨-, prepared, canonical, request, hform, rfl, -, rfl⟩ := Signing.sign_eq_ok_iff.mp hsigned
  have hpayload : canonical.payload = value.text := by
    rw [payload_of_of (prepared_of_canonicalize hform).2, hconfig]
  rw [hconfig, ← hpayload] at hshows
  rw [← hpayload] at hstands
  exact ⟨config, canonical, rfl, rfl, hstands, hwarnings, hshows⟩

end

/-- **What is signed in place of a payload follows the rules, and the payload is spared.**  If it is
asked for, the last line of the canonical request is the only value of the field that shows it. -/
theorem follows_rules_of_sign [ByteStream σ] [Source π Credential]
    {desk desk' : Desk π (Recorded σ)} {result : Except Error Unit}
    (h : (sign base).outcome desk = (result, desk')) :
    Spared (rule? desk.context desk.payload) desk.payload desk'.payload ∧
    (result = .ok () → ∃ config canonical,
      desk'.working = some (working config canonical) ∧
      desk'.context.signature = some (signature config (working config canonical).stringToSign) ∧
      Stands (rule? desk.context desk.payload) desk.payload canonical.payload ∧
      desk'.platform.warnings = (credential.outcome desk).2.platform.warnings
        ++ warnings (rule? desk.context desk.payload) ∧
      (desk.context.payloadHeader.getD base.manner.payloadHeader = .contentSha256 →
        ∃ line, IsLastLine line (working config canonical).canonicalRequest ∧
          Shows desk'.request.headers .amzContentSha256 line)) := by
  refine ⟨spared_of_sign h, ?_⟩
  rintro rfl
  obtain ⟨config, canonical, hworking, hsignature, hstands, hwarnings, hshows⟩ :=
    exists_signed_of_sign h
  refine ⟨config, canonical, hworking, hsignature, hstands, hwarnings, fun hasked => ?_⟩
  exact ⟨canonical.payload, ⟨(hshows hasked).newline_not_mem, _, rfl⟩, hshows hasked⟩

/-! ### An upload through a pipe -/

/-- An object comes through a pipe, and what is signed in place of it is to be sent. -/
def pipeDesk : Desk (CredentialProvider (Nowhere Credential)) (Recorded OneShotStream) where
  provider := .source (.fixed uploadCredential)
  platform := { now := .ofSecond 1704067200 }
  request := uploadRequest
  payload := .stream { stream := ⟨uploadChunks⟩ }
  context := { payloadHeader := some .contentSha256 }

/-- The draft filled in for such an upload. -/
def pipeConfig : Config := { uploadConfig with manner := { payloadHeader := .contentSha256 } }

theorem canSign_pipe : CanSign pipeConfig uploadRequest where
  algorithm := rfl
  star := by decide
  path := ⟨_, rfl⟩
  fields := ⟨_, _, rfl, rfl, by decide⟩
  scope _ := by decide
  token _ token h := by cases h

theorem exists_sign_pipe : ∃ desk', (sign uploadDraft).outcome pipeDesk = (.ok (), desk') := by
  have hgiven : credential.outcome pipeDesk = (.ok uploadCredential, pipeDesk) := by
    rw [outcome_credential]
    rfl
  obtain ⟨made, bench, hmade⟩ := @exists_sign_ok _ ⟨uploadRequest, none⟩ canSign_pipe
  exact ⟨_, sign_eq_ok_iff.mpr
    ⟨_, _, _, _, pipeConfig, made, bench, _, hgiven, rfl, rfl, hmade, rfl, rfl⟩⟩

/-- The pipe is not touched, and there is one warning. -/
theorem follows_rules_of_sign_pipe :
    ∃ desk' config canonical, (sign uploadDraft).outcome pipeDesk = (.ok (), desk') ∧
      desk'.payload = pipeDesk.payload ∧
      desk'.working = some (working config canonical) ∧
      canonical.payload = PayloadValue.unsigned.text ∧
      desk'.platform.warnings = [unboundedWarning] ∧
      ∃ line, IsLastLine line (working config canonical).canonicalRequest ∧
        Shows desk'.request.headers .amzContentSha256 line := by
  obtain ⟨desk', h⟩ := exists_sign_pipe
  obtain ⟨hspared, hsigned⟩ := follows_rules_of_sign h
  obtain ⟨config, canonical, hworking, -, hstands, hwarnings, hshows⟩ := hsigned rfl
  exact ⟨desk', config, canonical, h, hspared.unbounded rfl, hworking, hstands.ruled _ rfl,
    hwarnings, hshows rfl⟩

/-- A stream is read in part and not rewound: no rule applies, and what is signed is not the digest
of the whole. -/
theorem not_digest_uploadStarted :
    ∃ desk' config canonical, (sign uploadDraft).outcome (uploadDesk [.next]) = (.ok (), desk') ∧
      rule? (uploadDesk [.next]).context (uploadDesk [.next]).payload = none ∧
      desk'.working = some (working config canonical) ∧
      (Payload.rewind.outcome (uploadDesk [.next]).payload).2.content
        = .ok (Utf8.ofString "hello world") ∧
      canonical.payload ≠ Sha256.hexDigest (Utf8.ofString "hello world") := by
  obtain ⟨desk', h⟩ := exists_sign_upload [.next]
  obtain ⟨config, canonical, hworking, -, hstands, -⟩ := exists_signed_of_sign h
  have hrest : (uploadDesk [.next]).payload.content = .ok (Utf8.ofString "world") := by
    rw [uploadDesk, Payload.content, (ReplayableStream.readRest_eq _).1]
    rfl
  have hwhole : (Payload.rewind.outcome (uploadDesk [.next]).payload).2.content
      = .ok (Utf8.ofString "hello world") := by
    have hread := (ReplayableStream.readRest_eq ⟨uploadChunks, 0⟩).1
    exact congrArg (Except.map List.flatten) hread
  refine ⟨desk', config, canonical, h, rfl, hworking, hwhole, ?_⟩
  rw [ne_eq, Stands.eq_hexDigest_iff hstands hrest]
  decide +kernel

end Middleware

end AwsSigning.Signing
