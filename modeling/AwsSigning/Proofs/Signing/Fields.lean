/-
AwsSigning/Proofs/Signing/Fields.lean

What signing writes into the header fields.

Every step that writes a field is described by two things: what stands under
the name it writes, and that under every other name there is what was there
before (`setText_spec`, `setToken_spec`).  The steps are composed in the
order of the procedure.  In the end only four names have been written before
the signature is made, and only two with it (`canonicalHeaders_spec`,
`signHeaders_spec`).
-/
import AwsSigning.Proofs.Http.Header
import AwsSigning.Proofs.Steps
import AwsSigning.Signing.Signer

namespace AwsSigning

namespace Signing

variable {c : Config} {hs hs' : Headers} {name : HeaderName} {text : String}

/-- Between two tables the values under a name are the same. -/
def Untouched (hs hs' : Headers) (name : HeaderName) : Prop := hs'.values name = hs.values name

/-- Under a name there is one value, and it spells a text. -/
def Shows (hs : Headers) (name : HeaderName) (text : String) : Prop :=
  ∃ value, hs.values name = [value] ∧ value.bytes = Utf8.ofString text

theorem Untouched.shows (h : Untouched hs hs' name) (hshows : Shows hs name text) :
    Shows hs' name text := by
  obtain ⟨value, hvalues, hbytes⟩ := hshows
  exact ⟨value, h.trans hvalues, hbytes⟩

theorem Untouched.has (h : Untouched hs hs' name) : hs'.has name = hs.has name := by
  rw [Bool.eq_iff_iff, Headers.has_eq_true_iff_values, Headers.has_eq_true_iff_values, h]

/-- A value is shown as the text that it reads as. -/
theorem valueText_eq_ok_iff {value : HeaderValue} :
    CanonicalRequest.valueText name value = .ok text ↔ value.text? = some text := by
  unfold CanonicalRequest.valueText HeaderValue.text
  rcases value.text? with - | read
  · constructor
    · intro h
      cases h
    · intro h
      cases h
  · constructor
    · intro h
      cases h
      rfl
    · intro h
      cases h
      rfl

/-! ### Single steps -/

theorem setText_spec (h : setText hs name text = .ok hs') :
    Shows hs' name text ∧ ∀ other ≠ name, Untouched hs hs' other := by
  obtain ⟨value, hvalue, h⟩ := bind_eq_ok_iff.mp h
  cases h
  refine ⟨⟨value, Headers.values_set_self hs name value, HeaderValue.bytes_of_ofString hvalue⟩, ?_⟩
  intro other hother
  exact Headers.values_set_of_ne hother

theorem setToken_spec (h : setToken hs text = .ok hs') :
    Shows hs' .amzSecurityToken text ∧ ∀ other ≠ .amzSecurityToken, Untouched hs hs' other := by
  obtain ⟨value, hvalue, h⟩ := bind_eq_ok_iff.mp h
  cases h
  have hbytes : value.bytes = Utf8.ofString text := HeaderValue.bytes_of_ofString hvalue
  refine ⟨⟨value.secret, Headers.values_set_self hs _ _, hbytes⟩, ?_⟩
  intro other hother
  exact Headers.values_set_of_ne hother

theorem nameHost_spec {authority : String} (h : nameHost authority hs = .ok hs') :
    hs'.has .host = true ∧ ∀ other ≠ .host, Untouched hs hs' other := by
  unfold nameHost at h
  split at h
  · next hhas =>
    cases h
    exact ⟨hhas, fun _ _ => rfl⟩
  · obtain ⟨⟨value, hvalues, -⟩, hother⟩ := setText_spec h
    exact ⟨Headers.has_eq_true_iff_values.mpr (by simp [hvalues]), hother⟩

theorem showToken_spec {credential : Credential} (h : showToken credential hs = .ok hs') :
    ∀ other ≠ .amzSecurityToken, Untouched hs hs' other := by
  unfold showToken at h
  split at h
  · exact (setToken_spec h).2
  · cases h
    exact fun _ _ => rfl

theorem showTime_spec (h : showTime c hs = .ok hs') :
    (c.manner.placement = .header → Shows hs' .amzDate c.date.stampText) ∧
    (c.manner.omitToken = true → Untouched hs hs' .amzSecurityToken) ∧
      ∀ other ≠ .amzDate, other ≠ .amzSecurityToken → Untouched hs hs' other := by
  unfold showTime at h
  split at h
  · next hplacement =>
    cases h
    refine ⟨?_, fun _ => rfl, fun _ _ _ => rfl⟩
    intro hheader
    rw [hplacement] at hheader
    cases hheader
  · obtain ⟨dated, hdated, h⟩ := bind_eq_ok_iff.mp h
    obtain ⟨hshows, huntouched⟩ := setText_spec hdated
    split at h
    · cases h
      refine ⟨fun _ => hshows, fun _ => huntouched _ (by decide), ?_⟩
      intro other hdate _
      exact huntouched other hdate
    · next homit =>
      -- the token is written after the time, under a name of its own
      have htoken := showToken_spec h
      refine ⟨fun _ => (htoken _ (by decide)).shows hshows, fun e => absurd e homit, ?_⟩
      intro other hdate htok
      exact (htoken other htok).trans (huntouched other hdate)

theorem showPayload_spec (h : showPayload c hs = .ok hs') :
    ∀ other ≠ .amzContentSha256, Untouched hs hs' other := by
  unfold showPayload at h
  split at h
  · cases h
    exact fun _ _ => rfl
  · exact (setText_spec h).2

/-! ### Before the signature -/

/-- The fields that are signed are made of normalized ones. -/
theorem canonicalHeaders_eq (c : Config) (s : Signable) :
    canonicalHeaders c s =
      nameHost s.authority s.headers.normalize >>= fun named =>
        showTime c named >>= showPayload c := by
  rw [canonicalHeaders, Headers.collapsed_eq]
  rfl

/-- **The steps to the fields that are signed**: the server, the time, and then the payload. -/
theorem canonicalHeaders_eq_ok_iff {s : Signable} :
    canonicalHeaders c s = .ok hs ↔
      ∃ named timed, nameHost s.authority s.headers.normalize = .ok named ∧
        showTime c named = .ok timed ∧ showPayload c timed = .ok hs := by
  simp only [canonicalHeaders_eq, bind_eq_ok_iff, exists_and_left]

/-- **The fields that are signed name the server and, for a signature in a field, the time**; a
token that is to be left out stays as it was. -/
theorem canonicalHeaders_spec {s : Signable} (h : canonicalHeaders c s = .ok hs) :
    hs.has .host = true ∧
    (c.manner.placement = .header → Shows hs .amzDate c.date.stampText) ∧
      (c.manner.omitToken = true → hs.has .amzSecurityToken = s.headers.has .amzSecurityToken) := by
  obtain ⟨named, timed, hnamed, htimed, hshown⟩ := canonicalHeaders_eq_ok_iff.mp h
  obtain ⟨hhost, hname⟩ := nameHost_spec hnamed
  obtain ⟨hdate, htoken, htime⟩ := showTime_spec htimed
  have hpayload := showPayload_spec hshown
  refine ⟨?_, ?_, ?_⟩
  · rw [(hpayload _ (by decide)).has, (htime _ (by decide) (by decide)).has, hhost]
  · intro hplacement
    exact (hpayload _ (by decide)).shows (hdate hplacement)
  · intro homit
    rw [(hpayload _ (by decide)).has, (htoken homit).has, (hname _ (by decide)).has,
      Headers.has_normalize]

/-- What is signed in place of the payload is shown, if it is to be sent. -/
theorem shows_payload_of_canonicalHeaders {s : Signable}
    (hheader : c.manner.payloadHeader = .contentSha256) (h : canonicalHeaders c s = .ok hs) :
    Shows hs .amzContentSha256 c.payload.text := by
  obtain ⟨-, timed, -, -, hshown⟩ := canonicalHeaders_eq_ok_iff.mp h
  simp only [showPayload, hheader] at hshown
  exact (setText_spec hshown).1

/-! ### With the signature -/

/-- **The signature is shown under its own name**, and besides it nothing is written but a token
that was left out. -/
theorem signHeaders_spec {signature : String} (h : signHeaders c hs signature = .ok hs') :
    Shows hs' .authorization (authorizationText c hs signature) ∧
      ∀ other ≠ .authorization,
        (c.manner.omitToken = true → other ≠ .amzSecurityToken) → Untouched hs hs' other := by
  obtain ⟨value, hvalue, h⟩ := bind_eq_ok_iff.mp h
  have hbytes : value.bytes = Utf8.ofString (authorizationText c hs signature) :=
    HeaderValue.bytes_of_ofString hvalue
  have hshows : Shows (hs.set .authorization value.secret) .authorization
      (authorizationText c hs signature) :=
    ⟨value.secret, Headers.values_set_self _ _ _, hbytes⟩
  dsimp only at h
  split at h
  · next homit =>
    have htoken := showToken_spec h
    refine ⟨(htoken _ (by decide)).shows hshows, fun other ha ht => ?_⟩
    exact (htoken other (ht homit)).trans (Headers.values_set_of_ne ha)
  · cases h
    exact ⟨hshows, fun other ha _ => Headers.values_set_of_ne ha⟩

end Signing

end AwsSigning
