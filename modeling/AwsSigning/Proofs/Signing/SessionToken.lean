/-
AwsSigning/Proofs/Signing/SessionToken.lean

The field for the session token.

A credential with a session token shows it in a field of its own, before the
signature is made or, if it is to be left out of the signature, afterwards.  A
credential without one shows nothing.  Showing a token replaces whatever stands
under its name, and showing nothing leaves it there (`Presents`); nothing else
writes under that name.  So what a signing leaves is what the credential has to
show, or the values that came with the request (`presents_of_sign`):

    the credential has a token     that token alone, as a secret
    it has none                    what came with the request, normalized

The field is signed if it is there when the names are listed, that is, if the
credential has shown its token by then or if the field came with the request
(`exists_namesIn?_of_sign`).  So the field tells what the credential has, and
the list tells what was signed of it, exactly if no older token came with the
request, or it was replaced in time (`followsCredential_iff`).
-/
import AwsSigning.Proofs.Signing.HeaderSignature

namespace AwsSigning.Signing

open Verifier

variable {c : Config} {bench bench' : Bench} {hs hs' : Headers} {made : String} {s : Signable}
  {credential : Credential} {before after : List HeaderValue}

/-! ### Showing a token -/

/-- What stands under the name of the token once a credential has shown what it has. -/
def Presents (credential : Credential) (before after : List HeaderValue) : Prop :=
  match credential.sessionToken with
  | some token =>
    ∃ value, after = [value] ∧ value.bytes = Utf8.ofString token ∧ value.sensitive = true
  | none => after = before

theorem presents_iff_of_some {token : String} (h : credential.sessionToken = some token) :
    Presents credential before after ↔
      ∃ value, after = [value] ∧ value.bytes = Utf8.ofString token ∧ value.sensitive = true := by
  rw [Presents, h]

theorem presents_iff_of_none (h : credential.sessionToken = none) :
    Presents credential before after ↔ after = before := by
  rw [Presents, h]

/-- Something stands there if it was shown, or if it was there before and nothing was shown. -/
theorem Presents.ne_nil_iff (h : Presents credential before after) :
    after ≠ [] ↔ credential.sessionToken.isSome = true ∨ before ≠ [] := by
  rcases htoken : credential.sessionToken with - | token
  · rw [(presents_iff_of_none htoken).mp h]
    simp
  · obtain ⟨value, rfl, -⟩ := (presents_iff_of_some htoken).mp h
    simp

theorem presents_of_showToken (h : showToken credential hs = .ok hs') :
    Presents credential (hs.values .amzSecurityToken) (hs'.values .amzSecurityToken) := by
  unfold showToken at h
  rcases htoken : credential.sessionToken with - | token
  · rw [htoken] at h
    cases h
    exact (presents_iff_of_none htoken).mpr rfl
  · rw [htoken] at h
    obtain ⟨value, hvalue, h⟩ := bind_eq_ok_iff.mp h
    cases h
    have hbytes : value.bytes = Utf8.ofString token := HeaderValue.bytes_of_ofString hvalue
    exact (presents_iff_of_some htoken).mpr
      ⟨value.secret, Headers.values_set_self hs _ _, hbytes, rfl⟩

/-! ### Before the signature and with it -/

/-- Before the signature the token is shown, unless it is to be left out. -/
theorem presents_of_showTime (hplacement : c.manner.placement = .header)
    (homit : c.manner.omitToken = false) (h : showTime c hs = .ok hs') :
    Presents c.credential (hs.values .amzSecurityToken) (hs'.values .amzSecurityToken) := by
  simp only [showTime, hplacement, homit] at h
  obtain ⟨dated, hdated, htoken⟩ := bind_eq_ok_iff.mp h
  rw [← (setText_spec hdated).2 .amzSecurityToken (by decide)]
  exact presents_of_showToken htoken

/-- What stands under the name of the token in the fields that are signed. -/
theorem token_of_canonicalHeaders (hplacement : c.manner.placement = .header)
    (h : canonicalHeaders c s = .ok hs) :
    (c.manner.omitToken = true → hs.values .amzSecurityToken
      = (s.headers.values .amzSecurityToken).map HeaderValue.normalize) ∧
    (c.manner.omitToken = false → Presents c.credential
      ((s.headers.values .amzSecurityToken).map HeaderValue.normalize)
      (hs.values .amzSecurityToken)) := by
  obtain ⟨named, timed, hnamed, htimed, hshown⟩ := canonicalHeaders_eq_ok_iff.mp h
  -- the server and the payload stand under other names
  have hbefore : named.values .amzSecurityToken
      = (s.headers.values .amzSecurityToken).map HeaderValue.normalize := by
    rw [(nameHost_spec hnamed).2 .amzSecurityToken (by decide), Headers.values_normalize]
  have hafter : hs.values .amzSecurityToken = timed.values .amzSecurityToken :=
    showPayload_spec hshown .amzSecurityToken (by decide)
  rw [hafter, ← hbefore]
  exact ⟨(showTime_spec htimed).2.1, fun homit => presents_of_showTime hplacement homit htimed⟩

/-- With the signature the token is shown, if it was left out. -/
theorem token_of_signHeaders (h : signHeaders c hs made = .ok hs') :
    (c.manner.omitToken = true → Presents c.credential
      (hs.values .amzSecurityToken) (hs'.values .amzSecurityToken)) ∧
    (c.manner.omitToken = false →
      hs'.values .amzSecurityToken = hs.values .amzSecurityToken) := by
  constructor
  · intro homit
    obtain ⟨value, -, h⟩ := bind_eq_ok_iff.mp h
    simp only [homit] at h
    -- the authorization is written first, under another name
    have hset : (hs.set .authorization value.secret).values .amzSecurityToken
        = hs.values .amzSecurityToken := Headers.values_set_of_ne (by decide)
    rw [← hset]
    exact presents_of_showToken h
  · intro homit
    apply (signHeaders_spec h).2 .amzSecurityToken (by decide)
    intro homit'
    rw [homit] at homit'
    cases homit'

/-! ### What a signing leaves -/

/-- The names of the signed fields in the authorization that a request carries. -/
def namesIn? (request : Request) : Option (List String) :=
  (soleText? request.headers .authorization).bind authorizedNames?

/-- **A signed request carries what the credential presents.** -/
theorem presents_of_sign (hplacement : c.manner.placement = .header)
    (h : (sign c).outcome bench = (.ok made, bench')) :
    Presents c.credential
      ((bench.request.headers.values .amzSecurityToken).map HeaderValue.normalize)
      (bench'.request.headers.values .amzSecurityToken) := by
  obtain ⟨parts, hs, _, hparts, hfields, -, hheaders⟩ := exists_fields_of_sign hplacement h
  have hbefore : parts.headers.values .amzSecurityToken
      = bench.request.headers.values .amzSecurityToken := by
    rw [hparts, Headers.values_remove_of_ne (by decide)]
  obtain ⟨hkept, hshown⟩ := token_of_canonicalHeaders hplacement hfields
  obtain ⟨hlate, hsent⟩ := token_of_signHeaders hheaders
  rw [← hbefore]
  -- the token is shown once, at one of two times
  cases homit : c.manner.omitToken with
  | true =>
    rw [← hkept homit]
    exact hlate homit
  | false =>
    rw [hsent homit]
    exact hshown homit

/-- **The token is among the names that were signed if it was shown in time, or if there was one
before.** -/
theorem exists_namesIn?_of_sign (hplacement : c.manner.placement = .header)
    (h : (sign c).outcome bench = (.ok made, bench')) :
    ∃ names, namesIn? bench'.request = some names ∧
      (HeaderName.amzSecurityToken.text ∈ names ↔
        (c.credential.sessionToken.isSome = true ∧ c.manner.omitToken = false) ∨
          bench.request.headers.has .amzSecurityToken = true) := by
  obtain ⟨parts, hs, text, hparts, hfields, rfl, hheaders⟩ := exists_fields_of_sign hplacement h
  have hnames : namesIn? bench'.request = some ((signedNames hs).map (·.text)) := by
    rw [namesIn?, soleText?_of_shows (signHeaders_spec hheaders).1, Option.bind_some]
    exact authorizedNames?_signature (canonicalHeaders_spec hfields).1 text
  refine ⟨_, hnames, ?_⟩
  have hlisted : HeaderName.amzSecurityToken.text ∈ (signedNames hs).map (·.text) ↔
      hs.values .amzSecurityToken ≠ [] := by
    have hsigned : HeaderName.amzSecurityToken ∉ unsignedNames := by decide
    rw [← Headers.has_eq_true_iff_values]
    simp [HeaderName.text_inj, mem_signedNames, hsigned]
  have hbefore : (parts.headers.values .amzSecurityToken).map HeaderValue.normalize ≠ [] ↔
      bench.request.headers.has .amzSecurityToken = true := by
    rw [hparts, Headers.values_remove_of_ne (by decide), Headers.has_eq_true_iff_values]
    simp
  obtain ⟨hkept, hshown⟩ := token_of_canonicalHeaders hplacement hfields
  rw [hlisted]
  cases homit : c.manner.omitToken with
  | true => simp [hkept homit, ← hbefore]
  | false => rw [(hshown homit).ne_nil_iff, hbefore]; simp

/-! ### Following the credential -/

/-- The field for the token tells what the credential has, and the list of names tells what was
signed of it. -/
structure FollowsCredential (c : Config) (request : Request) : Prop where
  /-- There is a field exactly if there is a token. -/
  has_iff : request.headers.has .amzSecurityToken = true ↔ c.credential.sessionToken.isSome = true
  /-- The token is the only value, and it is a secret. -/
  value : ∀ token, c.credential.sessionToken = some token →
    ∃ value, request.headers.values .amzSecurityToken = [value] ∧
      value.bytes = Utf8.ofString token ∧ value.sensitive = true
  /-- It is signed exactly if it is not to be left out. -/
  signed : ∃ names, namesIn? request = some names ∧
    (HeaderName.amzSecurityToken.text ∈ names ↔
      c.credential.sessionToken.isSome = true ∧ c.manner.omitToken = false)

/-- **The field follows the credential exactly if no older token came with the request, or the
token of the credential took its place before the names were listed.** -/
theorem followsCredential_iff (hplacement : c.manner.placement = .header)
    (h : (sign c).outcome bench = (.ok made, bench')) :
    FollowsCredential c bench'.request ↔
      (bench.request.headers.has .amzSecurityToken = true →
        c.credential.sessionToken.isSome = true ∧ c.manner.omitToken = false) := by
  have hpresents := presents_of_sign hplacement h
  obtain ⟨names, hnames, hlisted⟩ := exists_namesIn?_of_sign hplacement h
  constructor
  · -- an older token is in the list in any case, so the list is right only if it belongs there
    rintro ⟨-, -, names', hnames', hsigned⟩ hstale
    cases hnames.symm.trans hnames'
    exact hsigned.mp (hlisted.mpr (.inr hstale))
  · intro hstale
    refine ⟨?_, fun token htoken => (presents_iff_of_some htoken).mp hpresents, names, hnames,
      hlisted.trans (or_iff_left_of_imp hstale)⟩
    rw [Headers.has_eq_true_iff_values, hpresents.ne_nil_iff]
    apply or_iff_left_of_imp
    intro hbefore
    refine (hstale ?_).1
    rw [Headers.has_eq_true_iff_values]
    simpa using hbefore

/-! ### A request that was signed with another credential -/

/-- The request still carries the token that it was signed with before. -/
def staleRequest : Request where
  method := .get
  uri := ⟨some "https", some "h", some .root⟩
  headers := [(.amzSecurityToken, ⟨Utf8.ofString "stale", false, by decide⟩)]

/-- The new credential has no token. -/
def tokenless : Config where
  region := "us-east-1"
  service := "s3"
  credential := { accessKeyId := "AKID", secretAccessKey := "secret" }
  date := .ofSecond 1704067200
  payload := .unsigned
  manner := {}

/-- The new credential has a token, which may have to be left out of the signature. -/
def renewed (omitToken : Bool) : Config :=
  { tokenless with
    credential := { tokenless.credential with sessionToken := "fresh" }
    manner := { omitToken } }

theorem canSign_tokenless : CanSign tokenless staleRequest where
  algorithm := rfl
  star := by decide
  path := ⟨_, rfl⟩
  fields := ⟨_, _, rfl, rfl, by decide⟩
  scope _ := by decide
  token _ token h := by cases h

theorem canSign_renewed (omitToken : Bool) : CanSign (renewed omitToken) staleRequest where
  algorithm := rfl
  star := by decide
  path := ⟨_, rfl⟩
  fields := by
    cases omitToken with
    | true => exact ⟨_, _, rfl, rfl, by decide⟩
    | false => exact ⟨_, _, rfl, rfl, by decide⟩
  scope _ := by
    show IsValueText tokenless.credentialScope
    decide
  token _ token h := by
    cases omitToken with
    | true =>
      cases h
      decide
    | false => cases h

/-- The new token takes the place of the old one in time. -/
theorem followsCredential_iff_renewed :
    (renewed false).manner.placement = .header ∧
    ∃ made bench', (sign (renewed false)).outcome ⟨staleRequest, none⟩ = (.ok made, bench') ∧
      FollowsCredential (renewed false) bench'.request := by
  obtain ⟨made, bench', h⟩ := @exists_sign_ok _ ⟨staleRequest, none⟩ (canSign_renewed false)
  refine ⟨rfl, made, bench', h, (followsCredential_iff rfl h).mpr ?_⟩
  intro _
  exact ⟨rfl, rfl⟩

/-- A credential without a token leaves the old token in the request, and a token that is left out
of the signature comes too late: the name of the old one has been signed. -/
theorem not_followsCredential_stale :
    (∃ made bench', (sign tokenless).outcome ⟨staleRequest, none⟩ = (.ok made, bench') ∧
      bench'.request.headers.has .amzSecurityToken = true ∧
      ¬FollowsCredential tokenless bench'.request) ∧
    ∃ made bench' names, (sign (renewed true)).outcome ⟨staleRequest, none⟩ = (.ok made, bench') ∧
      namesIn? bench'.request = some names ∧ HeaderName.amzSecurityToken.text ∈ names ∧
      ¬FollowsCredential (renewed true) bench'.request := by
  constructor
  · obtain ⟨made, bench', h⟩ := @exists_sign_ok _ ⟨staleRequest, none⟩ canSign_tokenless
    have hhas : bench'.request.headers.has .amzSecurityToken = true := by
      rw [Headers.has_eq_true_iff_values, (presents_of_sign rfl h).ne_nil_iff]
      exact .inr (List.cons_ne_nil _ _)
    refine ⟨made, bench', h, hhas, fun hfollows => ?_⟩
    cases hfollows.has_iff.mp hhas
  · obtain ⟨made, bench', h⟩ := @exists_sign_ok _ ⟨staleRequest, none⟩ (canSign_renewed true)
    obtain ⟨names, hnames, hlisted⟩ := exists_namesIn?_of_sign rfl h
    have hmem : HeaderName.amzSecurityToken.text ∈ names := hlisted.mpr (.inr rfl)
    refine ⟨made, bench', names, h, hnames, hmem, fun hfollows => ?_⟩
    obtain ⟨names', hnames', hsigned⟩ := hfollows.signed
    cases hnames.symm.trans hnames'
    cases (hsigned.mp hmem).2

end AwsSigning.Signing
