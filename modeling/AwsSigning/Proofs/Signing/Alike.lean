/-
AwsSigning/Proofs/Signing/Alike.lean

A signature depends only on what it should.

Two requests are *alike* (`Alike`) if they differ in nothing but the order of
their parameters, the order of fields with different names, spaces in values,
and fields that are never signed.  Signing cannot tell them apart: both fail
with the same failure, or both succeed with the same signature, the same
texts on the way to it, and the same URI (`sign_eq_of_alike`).

The two runs are followed side by side.  What the fields have in common from
the first step on is `SameSigned`: under every name that may be signed, the
same bytes.  It is kept by every step that writes a field, and it is all that
the canonical request looks at.
-/
import AwsSigning.Proofs.Signing.HeaderSignature

namespace AwsSigning.Signing

open Verifier

variable {c : Config} {hs hs' : Headers} {name : HeaderName}

/-- Requests that are the same to a signature. -/
structure Alike (request request' : Request) : Prop where
  method : request.method = request'.method
  scheme : request.uri.scheme = request'.uri.scheme
  authority : request.uri.authority = request'.uri.authority
  path : request.uri.path = request'.uri.path
  /-- The parameters are the same, in some order. -/
  parameters : request.uri.parameters.Perm request'.uri.parameters
  /-- Under every name that may be signed there are the same values in the same order, but for the
  spaces around their words. -/
  words : ∀ name, name ∉ unsignedNames →
    (request.headers.values name).map HeaderValue.words
      = (request'.headers.values name).map HeaderValue.words

/-! ### Fields -/

/-- Under every name that may be signed there are the same values. -/
def SameSigned (hs hs' : Headers) : Prop :=
  ∀ name, name ∉ unsignedNames →
    (hs.values name).map HeaderValue.bytes = (hs'.values name).map HeaderValue.bytes

/-- Normalizing leaves nothing of a value but its words. -/
theorem sameSigned_normalize (h : ∀ name, name ∉ unsignedNames →
      (hs.values name).map HeaderValue.words = (hs'.values name).map HeaderValue.words) :
    SameSigned hs.normalize hs'.normalize := by
  have hwords : HeaderValue.bytes ∘ HeaderValue.normalize
      = List.intercalate [0x20] ∘ HeaderValue.words :=
    funext HeaderValue.bytes_normalize
  intro name hname
  rw [Headers.values_normalize, Headers.values_normalize, List.map_map, List.map_map, hwords,
    ← List.map_map, ← List.map_map, h name hname]

/-- The same value is written to both. -/
theorem SameSigned.set (h : SameSigned hs hs') (name : HeaderName) (value : HeaderValue) :
    SameSigned (hs.set name value) (hs'.set name value) := by
  intro other hother
  by_cases hname : other = name
  · subst hname
    rw [Headers.values_set_self, Headers.values_set_self]
  · rw [Headers.values_set_of_ne hname, Headers.values_set_of_ne hname]
    exact h other hother

theorem SameSigned.has (h : SameSigned hs hs') (hname : name ∉ unsignedNames) :
    hs.has name = hs'.has name := by
  have hlength := congrArg List.length (h name hname)
  rw [List.length_map, List.length_map] at hlength
  rw [Bool.eq_iff_iff, Headers.has_eq_true_iff_values, Headers.has_eq_true_iff_values,
    ← List.length_pos_iff, ← List.length_pos_iff, hlength]

/-- **The same names are signed**, in the same order. -/
theorem SameSigned.signedNames_eq (h : SameSigned hs hs') : signedNames hs = signedNames hs' := by
  have hmem : ∀ name, name ∈ signedNames hs ↔ name ∈ signedNames hs' := by
    intro name
    rw [mem_signedNames, mem_signedNames]
    apply and_congr_left
    intro hname
    rw [h.has hname]
  -- each name is there once, so the two lists are the same up to order, and both are in order
  have hperm : (signedNames hs).Perm (signedNames hs') :=
    (List.perm_ext_iff_of_nodup (hs.nodup_names.filter _) (hs'.nodup_names.filter _)).mpr hmem
  exact hperm.eq_of_pairwise (fun _ _ _ _ => HeaderName.atMost_antisymm)
    (hs.pairwise_names.filter _) (hs'.pairwise_names.filter _)

theorem SameSigned.signedNamesText_eq (h : SameSigned hs hs') :
    signedNamesText hs = signedNamesText hs' := by
  rw [signedNamesText, signedNamesText, h.signedNames_eq]

/-! ### Steps that write fields -/

theorem SameSigned.setText (h : SameSigned hs hs') (name : HeaderName) (text : String) :
    EndAlike SameSigned (setText hs name text) (setText hs' name text) := by
  refine (EndAlike.refl (R := Eq) (fun _ => rfl) (HeaderValue.ofString text)).bind ?_
  rintro value _ rfl
  exact .ok (h.set name value)

theorem SameSigned.setToken (h : SameSigned hs hs') (token : String) :
    EndAlike SameSigned (setToken hs token) (setToken hs' token) := by
  refine (EndAlike.refl (R := Eq) (fun _ => rfl) (HeaderValue.ofString token)).bind ?_
  rintro value _ rfl
  exact .ok (h.set _ value.secret)

theorem SameSigned.nameHost (h : SameSigned hs hs') (authority : String) :
    EndAlike SameSigned (nameHost authority hs) (nameHost authority hs') := by
  unfold Signing.nameHost
  rw [h.has (by decide)]
  split
  · exact .ok h
  · exact h.setText _ _

theorem SameSigned.showToken (h : SameSigned hs hs') (credential : Credential) :
    EndAlike SameSigned (showToken credential hs) (showToken credential hs') := by
  unfold Signing.showToken
  split
  · exact h.setToken _
  · exact .ok h

theorem SameSigned.showTime (h : SameSigned hs hs') (c : Config) :
    EndAlike SameSigned (showTime c hs) (showTime c hs') := by
  unfold Signing.showTime
  split
  · exact .ok h
  · refine (h.setText _ _).bind fun dated dated' hdated => ?_
    split
    · exact .ok hdated
    · exact hdated.showToken _

theorem SameSigned.showPayload (h : SameSigned hs hs') (c : Config) :
    EndAlike SameSigned (showPayload c hs) (showPayload c hs') := by
  unfold Signing.showPayload
  split
  · exact .ok h
  · exact h.setText _ _

theorem SameSigned.signHeaders (h : SameSigned hs hs') (c : Config) (made : String) :
    EndAlike SameSigned (signHeaders c hs made) (signHeaders c hs' made) := by
  have htext : authorizationText c hs made = authorizationText c hs' made := by
    rw [authorizationText, authorizationText, h.signedNamesText_eq]
  unfold Signing.signHeaders
  rw [htext]
  refine (EndAlike.refl (R := Eq) (fun _ => rfl) (HeaderValue.ofString _)).bind ?_
  rintro value _ rfl
  have hset : SameSigned (hs.set .authorization value.secret)
      (hs'.set .authorization value.secret) := h.set _ _
  dsimp only
  split
  · exact hset.showToken _
  · exact .ok hset

/-! ### Parts -/

variable {s s' : Signable} {request request' : Request}

/-- Parts of requests in canonical form that are the same to a signature. -/
structure SameParts (s s' : Signable) : Prop where
  method : s.method = s'.method
  scheme : s.scheme = s'.scheme
  authority : s.authority = s'.authority
  path : s.path = s'.path
  query : s.query = s'.query
  headers : SameSigned s.headers s'.headers

/-- An authorization that was there is never signed, so it does not matter that it goes. -/
theorem words_remove {hs hs' : Headers} (h : ∀ name, name ∉ unsignedNames →
      (hs.values name).map HeaderValue.words = (hs'.values name).map HeaderValue.words) :
    ∀ name, name ∉ unsignedNames →
      ((hs.remove .authorization).values name).map HeaderValue.words
        = ((hs'.remove .authorization).values name).map HeaderValue.words := by
  intro name hname
  have hother : name ≠ .authorization := by
    rintro rfl
    exact hname (by decide)
  rw [Headers.values_remove_of_ne hother, Headers.values_remove_of_ne hother]
  exact h name hname

/-- **Parts that are alike come to the same canonical form.** -/
theorem sameParts_of_prepare (hmethod : s.method = s'.method) (hscheme : s.scheme = s'.scheme)
    (hauthority : s.authority = s'.authority) (hpath : s.path = s'.path)
    (hquery : s.query.Perm s'.query)
    (hwords : ∀ name, name ∉ unsignedNames →
      (s.headers.values name).map HeaderValue.words
        = (s'.headers.values name).map HeaderValue.words) :
    EndAlike SameParts (prepare c s) (prepare c s') := by
  have hheaders : EndAlike SameSigned
      (canonicalHeaders c { s with headers := s.headers.remove .authorization })
      (canonicalHeaders c { s' with headers := s'.headers.remove .authorization }) := by
    rw [canonicalHeaders_eq, canonicalHeaders_eq]
    dsimp only
    rw [hauthority]
    refine ((sameSigned_normalize (words_remove hwords)).nameHost _).bind fun _ _ hnamed => ?_
    refine (hnamed.showTime c).bind fun _ _ htimed => ?_
    exact htimed.showPayload c
  refine hheaders.bind fun headers headers' h => ?_
  -- what is added to the query depends on the names of the signed fields only
  have hadded : addedParameters c headers = addedParameters c headers' := by
    unfold addedParameters signatureParameters
    rw [h.signedNamesText_eq]
  have hcanonical : canonicalQuery (s.query ++ addedParameters c headers)
      = canonicalQuery (s'.query ++ addedParameters c headers') := by
    rw [hadded]
    exact canonicalQuery_eq_of_perm (hquery.append_right _)
  exact .ok ⟨hmethod, hscheme, hauthority, hpath, hcanonical, h⟩

/-- The text of a value depends on its bytes only. -/
theorem valueText_eq_of_bytes (name : HeaderName) (v v' : HeaderValue) (h : v.bytes = v'.bytes) :
    CanonicalRequest.valueText name v = CanonicalRequest.valueText name v' := by
  unfold CanonicalRequest.valueText HeaderValue.text HeaderValue.text?
  rw [h]

/-- **The canonical request looks at nothing else.** -/
theorem SameParts.of_eq (h : SameParts s s') :
    CanonicalRequest.of c s = CanonicalRequest.of c s' := by
  have hfield : ∀ name ∈ signedNames s'.headers,
      CanonicalRequest.field s.headers name = CanonicalRequest.field s'.headers name := by
    intro name hname
    have hvalues := h.headers name (mem_signedNames.mp hname).2
    unfold CanonicalRequest.field
    rw [mapM_eq_of_map_eq (valueText_eq_of_bytes name) hvalues]
  unfold CanonicalRequest.of
  rw [h.method, h.path, h.query, h.headers.signedNames_eq, mapM_congr hfield]

/-! ### Requests -/

/-- The two halves of signing go the same way for requests that are alike. -/
theorem Alike.canonicalize (h : Alike request request') (c : Config) :
    EndAlike (fun form form' => SameParts form.1 form'.1 ∧ form.2 = form'.2)
      (canonicalize c request) (canonicalize c request') := by
  have hprepared : EndAlike SameParts
      (Signable.ofUri request.uri request.method request.headers >>= prepare c)
      (Signable.ofUri request'.uri request'.method request'.headers >>= prepare c) := by
    unfold Signable.ofUri
    rw [h.authority]
    rcases request'.uri.authority with - | authority
    · exact .error _
    · exact sameParts_of_prepare h.method (congrArg (·.getD "http") h.scheme) rfl h.path
        h.parameters h.words
  unfold Signing.canonicalize
  rw [← bind_assoc, ← bind_assoc]
  refine hprepared.bind fun s s' hs => ?_
  rw [hs.of_eq]
  refine (EndAlike.refl (R := Eq) (fun _ => rfl) (CanonicalRequest.of c s')).bind ?_
  rintro canonical _ rfl
  exact .ok ⟨hs, rfl⟩

/-- The URI is made of nothing that differs. -/
theorem SameParts.uri_eq (h : SameParts s s') : s.uri = s'.uri := by
  unfold Signable.uri Signable.wire
  rw [h.path, h.query, h.scheme, h.authority]

/-- A signature is delivered for both, with the same URI, or for neither. -/
theorem SameParts.deliver (h : SameParts s s') (c : Config) (request request' : Request)
    (made : String) :
    EndAlike (fun sent sent' : Request => sent.uri = sent'.uri)
      (deliver c request s made) (deliver c request' s' made) := by
  have hattach : EndAlike SameParts (attach c s made) (attach c s' made) := by
    unfold attach
    split
    · exact .ok { h with query := congrArg (· ++ _) h.query }
    · refine (h.headers.signHeaders c made).bind fun headers headers' hheaders => ?_
      exact .ok { h with headers := hheaders }
  refine hattach.bind fun sent sent' hsent => ?_
  rw [hsent.uri_eq]
  refine (EndAlike.refl (R := Eq) (fun _ => rfl) sent'.uri).bind ?_
  rintro uri _ rfl
  exact .ok rfl

/-- **A signature depends only on what it should.**  Of two requests that are alike, neither is
signed, for the same reason, or both are, with the same signature, the same canonical request and
the same URI. -/
theorem sign_eq_of_alike {bench bench' : Bench} (h : Alike bench.request bench'.request) :
    ((sign c).outcome bench).1 = ((sign c).outcome bench').1 ∧
    ∀ made, ((sign c).outcome bench).1 = .ok made →
      ((sign c).outcome bench).2.working = ((sign c).outcome bench').2.working ∧
      ((sign c).outcome bench).2.request.uri = ((sign c).outcome bench').2.request.uri := by
  have hforms := h.canonicalize c
  rw [outcome_sign, outcome_sign, signed, signed]
  rcases c.manner.algorithm with - | -
  · dsimp only
    -- the two runs part from one another only if they could end differently, and they cannot
    generalize canonicalize c bench.request = form at hforms
    generalize canonicalize c bench'.request = form' at hforms
    cases hforms with
    | error e => exact ⟨rfl, fun _ h => by cases h⟩
    | @ok form form' hsame =>
      obtain ⟨s, canonical⟩ := form
      obtain ⟨s', canonical'⟩ := form'
      obtain ⟨hparts, hcanonical⟩ := hsame
      dsimp only at hparts hcanonical ⊢
      subst hcanonical
      have hsent := hparts.deliver c bench.request bench'.request
        (signature c (working c canonical).stringToSign)
      generalize deliver c bench.request s _ = sent at hsent
      generalize deliver c bench'.request s' _ = sent' at hsent
      cases hsent with
      | error e => exact ⟨rfl, fun _ h => by cases h⟩
      | ok huri => exact ⟨rfl, fun _ _ => ⟨rfl, huri⟩⟩
  · exact ⟨rfl, fun _ h => by cases h⟩

/-- The request for a listing as it may come out of a client of another make: the parameters are
in another order and one of them lost a sign that says nothing, a field that is not signed is gone
and another one is there, and the spaces in the values are not the same. -/
def relayedRequest : Request := { listingRequest with
  uri := ⟨some "https", some "bucket.s3.amazonaws.com",
    some ⟨"/a%20b", "a=b&prefix&max-keys=2", by decide⟩⟩
  headers := (listingRequest.headers.remove .userAgent).normalize
    ++ [(.expect, ⟨Utf8.ofString "100-continue", false, by decide⟩)] }

theorem alike_relayed : Alike listingRequest relayedRequest where
  method := rfl
  scheme := rfl
  authority := rfl
  path := rfl
  parameters := by decide +kernel
  words := by
    intro name hname
    by_cases hnote : name = ⟨"x-note", by decide⟩
    · subst hnote
      decide +kernel
    · -- the names of all other fields are of those that are not signed
      have hagent : HeaderName.userAgent ≠ name := by
        rintro rfl
        exact hname (by decide)
      have hexpect : HeaderName.expect ≠ name := by
        rintro rfl
        exact hname (by decide)
      have hlisting : listingRequest.headers.values name = [] := by
        simp [Headers.values, listingRequest, Ne.symm hnote, hagent]
      rw [relayedRequest, Headers.values_append, Headers.values_normalize,
        Headers.values_remove_of_ne (Ne.symm hagent), hlisting]
      simp [Headers.values, hexpect]

theorem sign_eq_of_alike_relayed :
    Alike listingRequest relayedRequest ∧
    ∃ made bench bench', (sign listing).outcome ⟨listingRequest, none⟩ = (.ok made, bench) ∧
      (sign listing).outcome ⟨relayedRequest, none⟩ = (.ok made, bench') ∧
      bench.working = bench'.working ∧ bench.request.uri = bench'.request.uri := by
  obtain ⟨made, bench, h⟩ : ∃ made bench,
      (sign listing).outcome ⟨listingRequest, none⟩ = (.ok made, bench) :=
    exists_sign_ok canSign_listing
  obtain ⟨hresult, hsent⟩ := @sign_eq_of_alike listing ⟨listingRequest, none⟩
    ⟨relayedRequest, none⟩ alike_relayed
  rcases hrelayed : (sign listing).outcome ⟨relayedRequest, none⟩ with ⟨result, bench'⟩
  rw [h, hrelayed] at hresult hsent
  obtain ⟨hworking, huri⟩ := hsent made rfl
  have hmade : result = .ok made := hresult.symm
  exact ⟨alike_relayed, made, bench, bench', h, congrArg (·, bench') hmade, hworking, huri⟩

end AwsSigning.Signing
