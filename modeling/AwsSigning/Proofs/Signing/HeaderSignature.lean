/-
AwsSigning/Proofs/Signing/HeaderSignature.lean

What is signed in a header field is what is sent.

A verifier that looks at the request as it was sent finds the signature that
it carries (`headerSignature?_of_sign`).  Two kinds of requests are left out.
A parameter without name and value is signed but not sent.  And a token that
was there before is signed, but replaced by the token that is to be left out
of the signature.
-/
import AwsSigning.Proofs.Signing.Success
import AwsSigning.Proofs.Signing.Verifier

namespace AwsSigning.Signing

open Verifier

variable {c : Config} {bench bench' : Bench} {hs hs' : Headers} {made : String}

/-! ### Fields -/

/-- The fields that were signed are sent as they were signed, if no signed token is replaced. -/
theorem untouched_of_signHeaders (h : signHeaders c hs made = .ok hs')
    (htoken : c.manner.omitToken = true → hs.has .amzSecurityToken = false) :
    ∀ name ∈ signedNames hs, Untouched hs hs' name := by
  intro name hname
  obtain ⟨hhas, hsigned⟩ := mem_signedNames.mp hname
  have hauthorization : name ≠ .authorization := by
    rintro rfl
    exact hsigned (by decide)
  have hkept : c.manner.omitToken = true → name ≠ .amzSecurityToken := by
    rintro homit rfl
    rw [htoken homit] at hhas
    cases hhas
  exact (signHeaders_spec h).2 name hauthorization hkept

/-- A token that is left out is not among the fields, unless it came with the request. -/
theorem has_token_of_prepared {request : Request} {s : Signable} (h : Prepared c request s)
    (htoken : ¬(c.manner.omitToken = true ∧ request.headers.has .amzSecurityToken = true)) :
    c.manner.omitToken = true → s.headers.has .amzSecurityToken = false := by
  intro homit
  obtain ⟨parts, hparts, hheaders⟩ := h.headers
  rw [(canonicalHeaders_spec hheaders).2.2 homit, hparts, Headers.has_remove_of_ne (by decide)]
  exact Bool.eq_false_iff.mpr fun hhas => htoken ⟨homit, hhas⟩

/-- The point in time is one of the fields that are signed. -/
theorem amzDate_of_canonicalHeaders {s : Signable} (hplacement : c.manner.placement = .header)
    (h : canonicalHeaders c s = .ok hs) :
    .amzDate ∈ signedNames hs ∧ Shows hs .amzDate c.date.stampText := by
  have hshows : Shows hs .amzDate c.date.stampText := (canonicalHeaders_spec h).2.1 hplacement
  refine ⟨mem_signedNames.mpr ⟨?_, by decide⟩, hshows⟩
  obtain ⟨value, hvalues, -⟩ := hshows
  rw [Headers.has_eq_true_iff_values, hvalues]
  exact List.cons_ne_nil value []

/-- The names are read back from an authorization with a signature. -/
theorem authorizedNames?_signature (hhost : hs.has .host = true) (text : String) :
    authorizedNames? (authorizationText c hs (signature c text))
      = some ((signedNames hs).map (·.text)) := by
  apply authorizedNames?_authorizationText (signedNames_ne_nil hhost)
  intro hcomma
  exact char_of_mem_signature (P := (· ≠ ',')) (by decide) _ hcomma rfl

/-! ### Parameters -/

/-- A signature in a field adds no parameter. -/
theorem addedParameters_of_header (h : c.manner.placement = .header) (hs : Headers) :
    addedParameters c hs = [] := by
  simp [addedParameters, h]

/-! ### The signature -/

/-- **What is signed is what is sent**: the verifier finds the signature that was made. -/
theorem headerSignature?_of_sign (hplacement : c.manner.placement = .header)
    (hpairs : ∀ pair ∈ bench.request.uri.parameters, pair ≠ ("", ""))
    (htoken : ¬(c.manner.omitToken = true ∧ bench.request.headers.has .amzSecurityToken = true))
    (h : (sign c).outcome bench = (.ok made, bench')) :
    c.verifier.headerSignature? bench'.request = some made := by
  obtain ⟨-, s, canonical, request, hform, rfl, hdeliver, rfl⟩ := sign_eq_ok_iff.mp h
  obtain ⟨hprepared, hcanonical⟩ := prepared_of_canonicalize hform
  obtain ⟨headers, uri, hheaders, huri, rfl⟩ := (deliver_header_iff hplacement).mp hdeliver
  obtain ⟨parts, -, hfields⟩ := hprepared.headers
  -- the parameters arrive in the order in which they were signed
  obtain ⟨sorted, hperm, hquery, hsorted⟩ := hprepared.exists_sorted
  rw [addedParameters_of_header hplacement, List.append_nil] at hperm
  have hsent : ∀ pair ∈ sorted, pair ≠ ("", "") := by
    intro pair hpair
    exact hpairs pair (hperm.mem_iff.mp hpair)
  obtain ⟨hpath, hparameters⟩ := Signable.uri_of_encoded hprepared.isTarget_path hquery hsent huri
  -- the fields arrive as they were signed
  have huntouched := untouched_of_signHeaders hheaders (has_token_of_prepared hprepared htoken)
  have hread : c.verifier.signature? c.date.stampText c.date.dateText
      { bench.request with method := s.method, uri := uri, headers := headers } uri.parameters
      ((signedNames s.headers).map (·.text))
        = some (signature c (working c canonical).stringToSign) := by
    refine signature?_eq hcanonical ⟨rfl, hpath, ?_, huntouched⟩
    rw [hparameters]
    exact hsorted
  have hstamp : soleText? headers .amzDate = some c.date.stampText := by
    obtain ⟨hsigned, hdate⟩ := amzDate_of_canonicalHeaders hplacement hfields
    exact soleText?_of_shows ((huntouched _ hsigned).shows hdate)
  have hnames := authorizedNames?_signature (c := c) (canonicalHeaders_spec hfields).1
    (working c canonical).stringToSign
  simp only [headerSignature?, soleText?_of_shows (signHeaders_spec hheaders).1, hnames, hstamp,
    stampDate?_stampText, hread, Option.bind_eq_bind, Option.bind_some]

/-- A bucket is listed; the token is shown in a field, and it is left out of the signature. -/
def listing : Config where
  region := "us-east-1"
  service := "s3"
  credential :=
    { accessKeyId := "AKIDEXAMPLE", secretAccessKey := "secret", sessionToken := "to/ken" }
  date := .ofSecond 1440938160
  payload := .unsigned
  manner := { payloadHeader := .contentSha256, encodeTwice := false, omitToken := true }

/-- The fields of the request are neither in order nor in their canonical form. -/
def listingRequest : Request where
  method := .get
  uri := ⟨some "https", some "bucket.s3.amazonaws.com",
    some ⟨"/a%20b", "prefix=&max-keys=2&a=b", by decide⟩⟩
  headers :=
    [(⟨"x-note", by decide⟩, ⟨Utf8.ofString "  two   words ", false, by decide⟩),
     (.userAgent, ⟨Utf8.ofString "lister", false, by decide⟩),
     (⟨"x-note", by decide⟩, ⟨Utf8.ofString "and more", false, by decide⟩)]

theorem canSign_listing : CanSign listing listingRequest where
  algorithm := rfl
  star := by decide
  path := ⟨_, rfl⟩
  fields := ⟨_, _, rfl, rfl, by decide⟩
  scope _ := by decide
  token _ token h := by
    cases h
    decide

theorem headerSignature?_of_sign_listing :
    (∀ pair ∈ listingRequest.uri.parameters, pair ≠ ("", "")) ∧
    ∃ made bench', (sign listing).outcome ⟨listingRequest, none⟩ = (.ok made, bench') ∧
      listing.verifier.headerSignature? bench'.request = some made := by
  have hpairs : ∀ pair ∈ listingRequest.uri.parameters, pair ≠ ("", "") := by decide +kernel
  obtain ⟨made, bench', h⟩ : ∃ made bench',
      (sign listing).outcome ⟨listingRequest, none⟩ = (.ok made, bench') :=
    exists_sign_ok canSign_listing
  exact ⟨hpairs, made, bench', h, headerSignature?_of_sign rfl hpairs (by decide) h⟩

end AwsSigning.Signing
