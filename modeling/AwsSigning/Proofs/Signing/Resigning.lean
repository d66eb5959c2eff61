/-
AwsSigning/Proofs/Signing/Resigning.lean

Signing a signed request again.

A request that is tried once more is signed where it stands, with all that the
first signing left in it.  Nothing of that matters to a signature in a header
field: what the second signing writes takes the place of what the first one
wrote, the authorization goes before anything else, and the rest was put into
a form that does not change any more.

    sign first  then  sign second   =   sign second

Between a request and what the first signing made of it, the header fields
differ only under the names that a signing writes (`writtenNames`).  The two
runs of the second signing are followed side by side, and with every field
that is written there is one name less under which they differ
(`SameApart`).  In the end there is none (`sign_eq_of_resigned`).
-/
import AwsSigning.Proofs.Signing.Alike

namespace AwsSigning.Signing

variable {c first second : Config} {hs hs' : Headers} {s s' : Signable} {request request' : Request}
  {name : HeaderName} {stale : List HeaderName}

/-! ### Fields under which two tables differ -/

/-- Under every name but some there are the same values in the same order. -/
def SameApart (stale : List HeaderName) (hs hs' : Headers) : Prop :=
  ∀ name ∉ stale, hs.values name = hs'.values name

/-- A name under which both get the same value is not stale any more. -/
theorem SameApart.set (h : SameApart (name :: stale) hs hs') (value : HeaderValue) :
    SameApart stale (hs.set name value) (hs'.set name value) := by
  intro other hother
  by_cases hname : other = name
  · subst hname
    rw [Headers.values_set_self, Headers.values_set_self]
  · rw [Headers.values_set_of_ne hname, Headers.values_set_of_ne hname]
    apply h
    simpa [hname] using hother

theorem SameApart.of_subset {stale' : List HeaderName} (h : SameApart stale hs hs')
    (hsub : stale ⊆ stale') : SameApart stale' hs hs' := by
  intro name hname
  exact h name fun hmem => hname (hsub hmem)

theorem SameApart.setText (h : SameApart (name :: stale) hs hs') (text : String) :
    EndAlike (SameApart stale) (setText hs name text) (setText hs' name text) := by
  refine (EndAlike.refl (R := Eq) (fun _ => rfl) (HeaderValue.ofString text)).bind ?_
  rintro value _ rfl
  exact .ok (h.set value)

/-- Tables that are the same are the same to a signature. -/
theorem SameApart.sameSigned (h : SameApart [] hs hs') : SameSigned hs hs' := by
  intro name _
  rw [h name (by simp)]

/-! ### Names that signing writes -/

/-- The name under which a credential shows its token. -/
def tokenNames (credential : Credential) : List HeaderName :=
  if credential.sessionToken.isSome then [.amzSecurityToken] else []

/-- The name under which that is shown which is signed in place of the payload. -/
def payloadNames (m : Manner) : List HeaderName :=
  match m.payloadHeader with
  | .absent => []
  | .contentSha256 => [.amzContentSha256]

/-- The names of the fields that a signing writes whatever stands there. -/
def writtenNames (c : Config) : List HeaderName :=
  .amzDate :: (tokenNames c.credential ++ payloadNames c.manner)

theorem untouched_of_showToken {credential : Credential} (h : showToken credential hs = .ok hs') :
    ∀ name ∉ tokenNames credential, Untouched hs hs' name := by
  unfold tokenNames
  unfold showToken at h
  split at h
  · next token htoken =>
    intro name hname
    apply (setToken_spec h).2
    simpa [htoken] using hname
  · cases h
    exact fun _ _ => rfl

theorem untouched_of_showPayload (h : showPayload c hs = .ok hs') :
    ∀ name ∉ payloadNames c.manner, Untouched hs hs' name := by
  rcases hheader : c.manner.payloadHeader with - | -
  · simp only [showPayload, hheader] at h
    cases h
    exact fun _ _ => rfl
  · simp only [showPayload, hheader] at h
    intro name hname
    apply (setText_spec h).2
    simpa [payloadNames, hheader] using hname

/-- **Only fields that name the server, and those that are written, change.** -/
theorem untouched_of_canonicalHeaders (hplacement : c.manner.placement = .header)
    (homit : c.manner.omitToken = false) (h : canonicalHeaders c s = .ok hs) :
    ∃ named, nameHost s.authority s.headers.normalize = .ok named ∧
      ∀ name ∉ writtenNames c, Untouched named hs name := by
  obtain ⟨named, timed, hnamed, htimed, hshown⟩ := canonicalHeaders_eq_ok_iff.mp h
  simp only [showTime, hplacement, homit] at htimed
  obtain ⟨dated, hdated, htoken⟩ := bind_eq_ok_iff.mp htimed
  refine ⟨named, hnamed, ?_⟩
  intro name hname
  simp only [writtenNames, List.mem_cons, List.mem_append, not_or] at hname
  calc hs.values name
      = timed.values name := untouched_of_showPayload hshown name hname.2.2
    _ = dated.values name := untouched_of_showToken htoken name hname.2.1
    _ = named.values name := (setText_spec hdated).2 name hname.1

/-- Fields that are normal stay so when the server is named. -/
theorem values_normalize_of_nameHost {authority : String} (hspace : ' ' ∉ authority.toList)
    {named : Headers} (h : nameHost authority hs.normalize = .ok named) :
    ∀ name, named.normalize.values name = named.values name := by
  have hnormal : ∀ name, (hs.normalize.values name).map HeaderValue.normalize
      = hs.normalize.values name := by
    intro name
    simp [Headers.values_normalize]
  intro name
  rw [Headers.values_normalize]
  unfold nameHost at h
  split at h
  · cases h
    exact hnormal name
  · obtain ⟨value, hvalue, h⟩ := bind_eq_ok_iff.mp h
    cases h
    by_cases hname : name = .host
    · -- the value is the authority, in which there is nothing to normalize
      have hbytes : 0x20 ∉ value.bytes := by
        rw [HeaderValue.bytes_of_ofString hvalue]
        exact @Utf8.not_mem_ofString ' ' _ (by decide) hspace
      subst hname
      rw [Headers.values_set_self, List.map_singleton, HeaderValue.normalize_of_spaceless hbytes]
    · rw [Headers.values_set_of_ne hname]
      exact hnormal name

/-! ### What a signing makes of a request -/

/-- How a request that carries a signature in a field relates to the request that was signed. -/
structure Resigned (c : Config) (request request' : Request) : Prop where
  method : request'.method = request.method
  version : request'.version = request.version
  extensions : request'.extensions = request.extensions
  scheme : request'.uri.scheme.getD "http" = request.uri.scheme.getD "http"
  authority : request'.uri.authority = request.uri.authority
  path : request'.uri.path = request.uri.path
  /-- The parameters are the same, in some order. -/
  parameters : request'.uri.parameters.Perm request.uri.parameters
  /-- The server is named. -/
  host : request'.headers.has .host = true
  /-- Apart from what was written, the fields are what they were when the server was named. -/
  headers : ∀ authority ∈ request.uri.authority, ∃ named,
    nameHost authority (request.headers.remove .authorization).normalize = .ok named ∧
      SameApart (writtenNames c) (request'.headers.remove .authorization).normalize named

/-- The parts in canonical form name the server of the request, and their fields are those of the
request, apart from what was written. -/
theorem parts_of_canonicalize {canonical : CanonicalRequest}
    (hplacement : c.manner.placement = .header) (homit : c.manner.omitToken = false)
    (h : canonicalize c request = .ok (s, canonical)) :
    request.uri.authority = some s.authority ∧ request.uri.scheme.getD "http" = s.scheme ∧
      s.headers.has .host = true ∧ ∃ named,
        nameHost s.authority (request.headers.remove .authorization).normalize = .ok named ∧
          ∀ name ∉ writtenNames c, Untouched named s.headers name := by
  obtain ⟨hauthority, hscheme⟩ := server_of_canonicalize h
  obtain ⟨parts, hparts, h⟩ := bind_eq_ok_iff.mp h
  obtain ⟨prepared, hprepared, h⟩ := bind_eq_ok_iff.mp h
  obtain ⟨_, -, h⟩ := bind_eq_ok_iff.mp h
  cases h
  refine ⟨hauthority, hscheme.symm, ?_⟩
  obtain ⟨headers, hheaders, h⟩ := bind_eq_ok_iff.mp hprepared
  cases h
  unfold Signable.ofUri at hparts
  split at hparts
  · cases hparts
  · cases hparts
    exact ⟨(canonicalHeaders_spec hheaders).1,
      untouched_of_canonicalHeaders hplacement homit hheaders⟩

theorem server_of_uri {uri : Uri} (h : s.uri = .ok uri) :
    uri.scheme = some s.scheme ∧ uri.authority = some s.authority := by
  unfold Signable.uri at h
  split at h
  · cases h
    exact ⟨rfl, rfl⟩
  · cases h

/-- **What a signing leaves of a request.** -/
theorem resigned_of_sign {bench bench' : Bench} {made : String}
    (hplacement : c.manner.placement = .header) (homit : c.manner.omitToken = false)
    (hspace : bench.request.uri.Spaceless)
    (hpairs : ∀ pair ∈ bench.request.uri.parameters, pair ≠ ("", ""))
    (h : (sign c).outcome bench = (.ok made, bench')) : Resigned c bench.request bench'.request := by
  obtain ⟨-, s, canonical, request, hform, rfl, hdeliver, rfl⟩ := sign_eq_ok_iff.mp h
  obtain ⟨headers, uri, hheaders, huri, rfl⟩ := (deliver_header_iff hplacement).mp hdeliver
  obtain ⟨hauthority, hscheme, hhost, named, hnamed, huntouched⟩ :=
    parts_of_canonicalize hplacement homit hform
  obtain ⟨hprepared, -⟩ := prepared_of_canonicalize hform
  -- the parameters arrive as they were sent, which is in canonical order
  obtain ⟨sorted, hperm, hquery, -⟩ := hprepared.exists_sorted
  rw [addedParameters_of_header hplacement, List.append_nil] at hperm
  have hsent : ∀ pair ∈ sorted, pair ≠ ("", "") := by
    intro pair hpair
    exact hpairs pair (hperm.mem_iff.mp hpair)
  obtain ⟨hpath, hparameters⟩ := Signable.uri_of_encoded hprepared.isTarget_path hquery hsent huri
  obtain ⟨hscheme', hauthority'⟩ := server_of_uri huri
  -- the authorization is all that was written after the signature was made
  have hsigned : ∀ name ≠ .authorization, Untouched s.headers headers name := by
    intro name hname
    apply (signHeaders_spec hheaders).2 name hname
    intro h
    rw [homit] at h
    cases h
  constructor
  · exact method_of_canonicalize hform
  · rfl
  · rfl
  · rw [hscheme', hscheme]
    rfl
  · rw [hauthority', hauthority]
  · exact hpath.trans hprepared.path
  · rw [hparameters]
    exact hperm
  · rw [(hsigned .host (by decide)).has]
    exact hhost
  · intro authority hmem
    rw [hauthority] at hmem
    cases hmem
    refine ⟨named, hnamed, ?_⟩
    intro name hname
    have hnormal := values_normalize_of_nameHost (hspace _ hauthority) hnamed name
    rw [← hnormal, Headers.values_normalize, Headers.values_normalize]
    by_cases hself : name = .authorization
    · -- there was none before, and the new one is gone
      subst hself
      have hnone := (nameHost_spec hnamed).2 .authorization (by decide)
      rw [Headers.values_remove_self, hnone, Headers.values_normalize, Headers.values_remove_self]
      rfl
    · rw [Headers.values_remove_of_ne hself, hsigned name hself, huntouched name hname]

/-! ### The second signing, side by side with a first one -/

theorem SameApart.showToken {credential : Credential}
    (h : SameApart (tokenNames credential ++ stale) hs hs') :
    EndAlike (SameApart stale) (showToken credential hs) (showToken credential hs') := by
  unfold Signing.showToken
  rcases htoken : credential.sessionToken with - | token
  · simp only [tokenNames, htoken] at h
    exact .ok h
  · simp only [tokenNames, htoken] at h
    refine (EndAlike.refl (R := Eq) (fun _ => rfl) (HeaderValue.ofString token)).bind ?_
    rintro value _ rfl
    exact .ok (h.set value.secret)

theorem SameApart.showPayload (h : SameApart (payloadNames c.manner ++ stale) hs hs') :
    EndAlike (SameApart stale) (showPayload c hs) (showPayload c hs') := by
  unfold Signing.showPayload
  rcases hheader : c.manner.payloadHeader with - | -
  · simp only [payloadNames, hheader] at h
    exact .ok h
  · simp only [payloadNames, hheader] at h
    exact h.setText c.payload.text

/-- **Once all is written, the fields are the same.** -/
theorem SameApart.written (hplacement : c.manner.placement = .header)
    (homit : c.manner.omitToken = false) (h : SameApart (writtenNames c) hs hs') :
    EndAlike (SameApart []) (showTime c hs >>= Signing.showPayload c)
      (showTime c hs' >>= Signing.showPayload c) := by
  have htimed : EndAlike (SameApart (payloadNames c.manner)) (showTime c hs) (showTime c hs') := by
    simp only [showTime, hplacement, homit]
    exact (h.setText c.date.stampText).bind fun _ _ hdated => hdated.showToken
  refine htimed.bind fun _ _ hshown => ?_
  apply SameApart.showPayload
  rwa [List.append_nil]

/-- Parts in canonical form that are the same to a signature, in all of their fields. -/
structure SamePrepared (s s' : Signable) : Prop extends SameParts s s' where
  fields : SameApart [] s.headers s'.headers

/-- **A request that was signed is prepared like the one it was.** -/
theorem Resigned.prepare (h : Resigned c request request')
    (hplacement : second.manner.placement = .header) (homit : second.manner.omitToken = false)
    (hnames : writtenNames second = writtenNames c) :
    EndAlike SamePrepared
      (Signable.ofUri request'.uri request'.method request'.headers >>= prepare second)
      (Signable.ofUri request.uri request.method request.headers >>= prepare second) := by
  unfold Signable.ofUri
  rw [h.authority]
  rcases hauthority : request.uri.authority with - | authority
  · exact .error _
  obtain ⟨named, hnamed, hapart⟩ := h.headers authority hauthority
  rw [← hnames] at hapart
  -- in the request that was signed the server is named already
  have hhost : nameHost authority (request'.headers.remove .authorization).normalize
      = .ok (request'.headers.remove .authorization).normalize := by
    unfold nameHost
    rw [Headers.has_normalize, Headers.has_remove_of_ne (by decide), h.host]
    rfl
  have hheaders : EndAlike (SameApart [])
      (nameHost authority (request'.headers.remove .authorization).normalize
        >>= fun named => showTime second named >>= showPayload second)
      (nameHost authority (request.headers.remove .authorization).normalize
        >>= fun named => showTime second named >>= showPayload second) := by
    rw [hhost, hnamed]
    exact hapart.written hplacement homit
  unfold Signing.prepare
  simp only [canonicalHeaders_eq]
  refine hheaders.bind fun headers headers' hsame => ?_
  have hquery : canonicalQuery (request'.uri.parameters ++ addedParameters second headers)
      = canonicalQuery (request.uri.parameters ++ addedParameters second headers') := by
    rw [addedParameters_of_header hplacement, addedParameters_of_header hplacement]
    exact canonicalQuery_eq_of_perm (h.parameters.append_right _)
  exact .ok ⟨⟨h.method, h.scheme, rfl, h.path, hquery, hsame.sameSigned⟩, hsame⟩

theorem Resigned.canonicalize (h : Resigned c request request')
    (hplacement : second.manner.placement = .header) (homit : second.manner.omitToken = false)
    (hnames : writtenNames second = writtenNames c) :
    EndAlike (fun form form' => SamePrepared form.1 form'.1 ∧ form.2 = form'.2)
      (canonicalize second request') (canonicalize second request) := by
  unfold Signing.canonicalize
  rw [← bind_assoc, ← bind_assoc]
  refine (h.prepare hplacement homit hnames).bind fun s s' hs => ?_
  rw [hs.of_eq]
  refine (EndAlike.refl (R := Eq) (fun _ => rfl) (CanonicalRequest.of second s')).bind ?_
  rintro canonical _ rfl
  exact .ok ⟨hs, rfl⟩

/-! ### Requests that are the same -/

/-- Requests that are the same: only fields with different names may stand in another order. -/
structure SameRequest (request request' : Request) : Prop where
  method : request.method = request'.method
  uri : request.uri = request'.uri
  version : request.version = request'.version
  extensions : request.extensions = request'.extensions
  /-- Under every name there are the same values in the same order. -/
  headers : ∀ name, request.headers.values name = request'.headers.values name

theorem SameApart.signHeaders (homit : c.manner.omitToken = false) (h : SameApart [] hs hs')
    (made : String) :
    EndAlike (SameApart []) (signHeaders c hs made) (signHeaders c hs' made) := by
  have htext : authorizationText c hs made = authorizationText c hs' made := by
    rw [authorizationText, authorizationText, h.sameSigned.signedNamesText_eq]
  have hstale : SameApart [.authorization] hs hs' := h.of_subset (List.nil_subset _)
  simp only [Signing.signHeaders, homit, htext]
  refine (EndAlike.refl (R := Eq) (fun _ => rfl) (HeaderValue.ofString _)).bind ?_
  rintro value _ rfl
  exact .ok (hstale.set value.secret)

/-- A signature is delivered in the same way. -/
theorem SamePrepared.deliver (h : SamePrepared s s') (hplacement : c.manner.placement = .header)
    (homit : c.manner.omitToken = false) (hversion : request.version = request'.version)
    (hextensions : request.extensions = request'.extensions) (made : String) :
    EndAlike SameRequest (deliver c request s made) (deliver c request' s' made) := by
  have hattach : EndAlike SamePrepared (attach c s made) (attach c s' made) := by
    simp only [attach, hplacement]
    refine (h.fields.signHeaders homit made).bind fun headers headers' hheaders => ?_
    exact .ok ⟨{ h.toSameParts with headers := hheaders.sameSigned }, hheaders⟩
  refine hattach.bind fun sent sent' hsent => ?_
  rw [hsent.uri_eq]
  refine (EndAlike.refl (R := Eq) (fun _ => rfl) sent'.uri).bind ?_
  rintro uri _ rfl
  exact .ok ⟨hsent.method, rfl, hversion, hextensions, fun name => hsent.fields name (by simp)⟩

/-- **Signing again is signing afresh.**  A request that carries a signature in a field is signed
with another time, place, payload and credential as the request without one would be: both fail
with the same failure, or both get the same signature and are the same afterwards.  No URI that can
be written has a space in its authority (`Uri.spaceless_of_parse`). -/
theorem sign_eq_of_resigned {bench bench₁ : Bench} {made₁ : String}
    (hplacement : first.manner.placement = .header) (homit : first.manner.omitToken = false)
    (hmanner : second.manner = first.manner)
    (htoken : second.credential.sessionToken.isSome = first.credential.sessionToken.isSome)
    (hspace : bench.request.uri.Spaceless)
    (hpairs : ∀ pair ∈ bench.request.uri.parameters, pair ≠ ("", ""))
    (h : (sign first).outcome bench = (.ok made₁, bench₁)) :
    ((sign second).outcome bench₁).1 = ((sign second).outcome bench).1 ∧
    ∀ made, ((sign second).outcome bench).1 = .ok made →
      ((sign second).outcome bench₁).2.working = ((sign second).outcome bench).2.working ∧
      SameRequest ((sign second).outcome bench₁).2.request
        ((sign second).outcome bench).2.request := by
  have hresigned : Resigned first bench.request bench₁.request :=
    resigned_of_sign hplacement homit hspace hpairs h
  have hnames : writtenNames second = writtenNames first := by
    rw [writtenNames, writtenNames, tokenNames, tokenNames, hmanner, htoken]
  rw [← hmanner] at hplacement homit
  have hforms := hresigned.canonicalize hplacement homit hnames
  rw [outcome_sign, outcome_sign, signed, signed]
  rcases second.manner.algorithm with - | -
  · dsimp only
    generalize canonicalize second bench₁.request = form at hforms
    generalize canonicalize second bench.request = form' at hforms
    cases hforms with
    | error e => exact ⟨rfl, fun _ h => by cases h⟩
    | @ok form form' hsame =>
      obtain ⟨s, canonical⟩ := form
      obtain ⟨s', canonical'⟩ := form'
      obtain ⟨hprepared, hcanonical⟩ := hsame
      dsimp only at hprepared hcanonical ⊢
      subst hcanonical
      have hsent := hprepared.deliver hplacement homit hresigned.version hresigned.extensions
        (signature second (working second canonical).stringToSign)
      generalize deliver second bench₁.request s _ = sent at hsent
      generalize deliver second bench.request s' _ = sent' at hsent
      cases hsent with
      | error e => exact ⟨rfl, fun _ h => by cases h⟩
      | ok hrequest => exact ⟨rfl, fun _ _ => ⟨rfl, hrequest⟩⟩
  · exact ⟨rfl, fun _ h => by cases h⟩

/-- A bucket is listed; the token is signed. -/
def firstTry : Config := { listing with manner := { payloadHeader := .contentSha256 } }

/-- The next morning it is tried again in another region, with a key and a token that are new. -/
def nextTry : Config where
  region := "eu-west-1"
  service := "s3"
  credential := { accessKeyId := "AKIDROTATED", secretAccessKey := "rotated", sessionToken := "new" }
  date := .ofSecond 1440982800
  payload := .precomputed Sha256.hexDigestOfEmpty
  manner := firstTry.manner

theorem canSign_firstTry : CanSign firstTry listingRequest where
  algorithm := rfl
  star := by decide
  path := ⟨_, rfl⟩
  fields := ⟨_, _, rfl, rfl, by decide⟩
  scope _ := by decide
  token _ token h := by cases h

theorem canSign_nextTry : CanSign nextTry listingRequest where
  algorithm := rfl
  star := by decide
  path := ⟨_, rfl⟩
  fields := ⟨_, _, rfl, rfl, by decide⟩
  scope _ := by decide
  token _ token h := by cases h

/-- The second try goes out as if there had been no first one, and one config signs twice what it
signs once. -/
theorem sign_eq_of_resigned_nextTry :
    listingRequest.uri.Spaceless ∧ (∀ pair ∈ listingRequest.uri.parameters, pair ≠ ("", "")) ∧
    ∃ made made₁ bench bench₁ again twice,
      (sign firstTry).outcome ⟨listingRequest, none⟩ = (.ok made₁, bench₁) ∧
      (sign nextTry).outcome ⟨listingRequest, none⟩ = (.ok made, bench) ∧
      (sign nextTry).outcome bench₁ = (.ok made, again) ∧
      SameRequest again.request bench.request ∧
      (sign firstTry).outcome bench₁ = (.ok made₁, twice) ∧
      SameRequest twice.request bench₁.request := by
  have hspace : listingRequest.uri.Spaceless :=
    @Uri.spaceless_of_parse "https://bucket.s3.amazonaws.com/a%20b?prefix=&max-keys=2&a=b" _ rfl
  have hpairs : ∀ pair ∈ listingRequest.uri.parameters, pair ≠ ("", "") := by decide +kernel
  obtain ⟨made₁, bench₁, h₁⟩ : ∃ made bench,
      (sign firstTry).outcome ⟨listingRequest, none⟩ = (.ok made, bench) :=
    exists_sign_ok canSign_firstTry
  obtain ⟨made, bench, h⟩ : ∃ made bench,
      (sign nextTry).outcome ⟨listingRequest, none⟩ = (.ok made, bench) :=
    exists_sign_ok canSign_nextTry
  obtain ⟨hnext, hsame⟩ := @sign_eq_of_resigned firstTry nextTry ⟨listingRequest, none⟩ bench₁ made₁
    rfl rfl rfl rfl hspace hpairs h₁
  obtain ⟨hfirst, htwice⟩ := @sign_eq_of_resigned firstTry firstTry ⟨listingRequest, none⟩ bench₁
    made₁ rfl rfl rfl rfl hspace hpairs h₁
  rw [h] at hnext hsame
  rw [h₁] at hfirst htwice
  exact ⟨hspace, hpairs, made, made₁, bench, bench₁, ((sign nextTry).outcome bench₁).2,
    ((sign firstTry).outcome bench₁).2, h₁, h, Prod.ext hnext rfl, (hsame made rfl).2,
    Prod.ext hfirst rfl, (htwice made₁ rfl).2⟩

end AwsSigning.Signing
