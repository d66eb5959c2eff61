/-
AwsSigning/Proofs/Signing/Spacing.lean

Spaces in what is signed.

A server may trim the values that it receives and collapse the spaces in them
before it puts a canonical request together.  That changes nothing if every
value is tidy, and the values that come with a request are made so before
anything else.  The signer's own values are written after that, as they are:
the server and the time, which hold no space, and a session token and what is
signed in place of the payload, which may be any text (`shownTexts`).

So every value in the canonical request is normalized, and such a server finds
the fields that were signed, exactly if these texts are tidy
(`tidy_iff_of_working`).
-/
import AwsSigning.Proofs.Http.Spaces
import AwsSigning.Proofs.Signing.Resigning
import AwsSigning.Proofs.Signing.SessionToken
import AwsSigning.Proofs.Signing.Unambiguous

namespace AwsSigning.Signing

open Verifier

variable {c : Config} {hs hs' : Headers} {s : Signable} {request : Request} {name : HeaderName}
  {text : String} {canonical : CanonicalRequest}

/-! ### Values and the texts that are shown of them -/

/-- All values that are signed are normalized. -/
def Settled (hs : Headers) : Prop :=
  ∀ name ∈ signedNames hs, ∀ value ∈ hs.values name, value.normalize = value

/-- No value in a canonical request has a space to spare. -/
def CanonicalRequest.IsTidy (r : CanonicalRequest) : Prop :=
  ∀ field ∈ r.fields, ∀ text ∈ field.2, AwsSigning.IsTidy ' ' text.toList

/-- Values that are shown as one text hold the same bytes. -/
theorem bytes_eq_of_text? {value value' : HeaderValue} (h : value.text? = some text)
    (h' : value'.text? = some text) : value'.bytes = value.bytes := by
  rw [← ofString_of_text? h, ← ofString_of_text? h']

/-- A value that is shown as a text spells it, and no other text. -/
theorem eq_of_text? {value : HeaderValue} {shown : String} (h : value.text? = some text)
    (hbytes : value.bytes = Utf8.ofString shown) : text = shown := by
  have hspells : Utf8.ofString text = Utf8.ofString shown :=
    (ofString_of_text? h).trans hbytes
  rw [← Utf8.toStringLossy_ofString text, hspells, Utf8.toStringLossy_ofString]

/-- **The texts in a canonical request** are those of the signed values, all of which have one. -/
theorem texts_of_of (h : CanonicalRequest.of c s = .ok canonical) :
    (∀ name ∈ signedNames s.headers, ∀ value ∈ s.headers.values name,
      ∃ field ∈ canonical.fields, ∃ text ∈ field.2, value.text? = some text) ∧
    ∀ field ∈ canonical.fields, ∀ text ∈ field.2,
      ∃ name ∈ signedNames s.headers, ∃ value ∈ s.headers.values name,
        value.text? = some text := by
  obtain ⟨path, -, h⟩ := bind_eq_ok_iff.mp h
  obtain ⟨fields, hfields, h⟩ := bind_eq_ok_iff.mp h
  cases h
  obtain ⟨hshown, hfrom⟩ := exists_of_mapM_eq_ok hfields
  constructor
  · intro name hname value hvalue
    obtain ⟨field, hfield, hread⟩ := hshown name hname
    obtain ⟨texts, htexts, hread⟩ := bind_eq_ok_iff.mp hread
    cases hread
    obtain ⟨text, htext, hvalue⟩ := (exists_of_mapM_eq_ok htexts).1 value hvalue
    exact ⟨_, hfield, text, htext, valueText_eq_ok_iff.mp hvalue⟩
  · intro field hfield text htext
    obtain ⟨name, hname, hread⟩ := hfrom field hfield
    obtain ⟨texts, htexts, hread⟩ := bind_eq_ok_iff.mp hread
    cases hread
    obtain ⟨value, hvalue, hshow⟩ := (exists_of_mapM_eq_ok htexts).2 text htext
    exact ⟨name, hname, value, hvalue, valueText_eq_ok_iff.mp hshow⟩

/-- **The canonical request is tidy as the values are.** -/
theorem isTidy_iff_settled (h : CanonicalRequest.of c s = .ok canonical) :
    canonical.IsTidy ↔ Settled s.headers := by
  obtain ⟨hshown, hfrom⟩ := texts_of_of h
  constructor
  · intro htidy name hname value hvalue
    obtain ⟨field, hfield, text, htext, hread⟩ := hshown name hname value hvalue
    exact HeaderValue.normalize_eq_self_iff.mpr
      ((HeaderValue.isTidy_iff hread).mp (htidy field hfield text htext))
  · intro hsettled field hfield text htext
    obtain ⟨name, hname, value, hvalue, hread⟩ := hfrom field hfield text htext
    exact (HeaderValue.isTidy_iff hread).mpr
      (HeaderValue.normalize_eq_self_iff.mp (hsettled name hname value hvalue))

/-! ### A server that normalizes what it receives -/

/-- From the fields of a request, once they are normalized, the signed fields are read as they
were signed. -/
def Finds (headers : Headers) (canonical : CanonicalRequest) : Prop :=
  ∀ field ∈ canonical.fields, field? headers.normalize field.1 = some field

/-- If normalized values are shown as the values are, these were normalized already. -/
theorem normalize_eq_self_of_mapM {values : List HeaderValue} {texts : List String}
    (h : values.mapM (CanonicalRequest.valueText name) = .ok texts)
    (h' : (values.map HeaderValue.normalize).mapM HeaderValue.text? = some texts) :
    ∀ value ∈ values, value.normalize = value := by
  induction values generalizing texts with
  | nil => simp
  | cons value values ih =>
    simp only [List.mapM_cons, bind_eq_ok_iff, pure_eq_ok_iff] at h
    obtain ⟨text, hread, rest, hrest, rfl⟩ := h
    simp only [List.map_cons, List.mapM_cons, Option.bind_eq_bind, Option.bind_eq_some_iff,
      Option.pure_def, Option.some.injEq, List.cons.injEq] at h'
    obtain ⟨_, hread', _, hrest', rfl, rfl⟩ := h'
    refine List.forall_mem_cons.mpr ⟨?_, ih hrest hrest'⟩
    exact HeaderValue.eq_of_bytes (bytes_eq_of_text? (valueText_eq_ok_iff.mp hread) hread') rfl

/-- One field is read as it was signed, if its values are normalized. -/
theorem field?_normalize_iff {field : String × List String} (huntouched : Untouched hs hs' name)
    (h : CanonicalRequest.field hs name = .ok field) :
    field? hs'.normalize field.1 = some field ↔
      ∀ value ∈ hs.values name, value.normalize = value := by
  have hvalues : hs'.normalize.values name = (hs.values name).map HeaderValue.normalize := by
    rw [Headers.values_normalize, huntouched]
  have hname : field.1 = name.text := congrArg Prod.fst (ofString_of_field h)
  constructor
  · intro hread
    obtain ⟨texts, htexts, h⟩ := bind_eq_ok_iff.mp h
    cases h
    have hreceived : (hs'.normalize.filter (·.1.text = name.text)).map (·.2)
        = (hs.values name).map HeaderValue.normalize := by
      simp only [HeaderName.text_inj]
      exact hvalues
    obtain ⟨_, hall, hsame⟩ := Option.bind_eq_some_iff.mp hread
    cases hsame
    rw [hreceived] at hall
    exact normalize_eq_self_of_mapM htexts hall
  · intro hnormal
    have hsame : Untouched hs hs'.normalize name := by
      rw [Untouched, hvalues]
      exact (List.map_congr_left hnormal).trans (List.map_id _)
    rw [hname]
    exact field?_of_field hsame h

/-- **A server that normalizes finds what was signed** if all of it was normalized, and the signed
fields are the received ones. -/
theorem finds_iff_settled (h : CanonicalRequest.of c s = .ok canonical)
    (huntouched : ∀ name ∈ signedNames s.headers, Untouched s.headers hs name) :
    Finds hs canonical ↔ Settled s.headers := by
  obtain ⟨path, -, h⟩ := bind_eq_ok_iff.mp h
  obtain ⟨fields, hfields, h⟩ := bind_eq_ok_iff.mp h
  cases h
  obtain ⟨hshown, hfrom⟩ := exists_of_mapM_eq_ok hfields
  constructor
  · intro hfinds name hname
    obtain ⟨field, hfield, hread⟩ := hshown name hname
    exact (field?_normalize_iff (huntouched name hname) hread).mp (hfinds field hfield)
  · intro hsettled field hfield
    obtain ⟨name, hname, hread⟩ := hfrom field hfield
    exact (field?_normalize_iff (huntouched name hname) hread).mpr (hsettled name hname)

/-! ### What the signer shows as it is -/

/-- The texts that a signing writes into header fields as they are, but for the server and the
time. -/
def shownTexts (c : Config) : List String :=
  (if c.manner.placement = .header ∧ c.manner.omitToken = false
    then c.credential.sessionToken.toList else [])
    ++ match c.manner.payloadHeader with
      | .absent => []
      | .contentSha256 => [c.payload.text]

/-- A value is normalized, or it spells one of some texts. -/
def NormalOr (texts : List String) (value : HeaderValue) : Prop :=
  value.normalize = value ∨ ∃ text ∈ texts, value.bytes = Utf8.ofString text

/-- All values under all names have a property. -/
def AllValues (P : HeaderValue → Prop) (hs : Headers) : Prop :=
  ∀ name, ∀ value ∈ hs.values name, P value

/-- The value that is written is all that has to be looked at. -/
theorem AllValues.of_shows {P : HeaderValue → Prop} (h : AllValues P hs)
    (hshows : Shows hs' name text) (huntouched : ∀ other ≠ name, Untouched hs hs' other)
    (htext : ∀ value, value.bytes = Utf8.ofString text → P value) : AllValues P hs' := by
  intro other value hvalue
  by_cases hother : other = name
  · subst hother
    obtain ⟨written, hwritten, hbytes⟩ := hshows
    rw [hwritten, List.mem_singleton] at hvalue
    rw [hvalue]
    exact htext written hbytes
  · rw [huntouched other hother] at hvalue
    exact h other value hvalue

/-- A text without spaces is normalized. -/
theorem normalOr_of_space_not_mem {texts : List String} {value : HeaderValue}
    (hspace : ' ' ∉ text.toList) (h : value.bytes = Utf8.ofString text) : NormalOr texts value := by
  refine .inl (HeaderValue.normalize_of_spaceless ?_)
  rw [h]
  exact @Utf8.not_mem_ofString ' ' _ (by decide) hspace

theorem token_mem_shownTexts (hplacement : c.manner.placement = .header)
    (homit : c.manner.omitToken = false) {token : String}
    (htoken : c.credential.sessionToken = some token) : token ∈ shownTexts c := by
  simp [shownTexts, hplacement, homit, htoken]

theorem payload_mem_shownTexts (h : c.manner.payloadHeader = .contentSha256) :
    c.payload.text ∈ shownTexts c := by
  simp [shownTexts, h]

/-- With the time, a token may have been shown. -/
theorem allValues_of_showTime (hall : AllValues (NormalOr (shownTexts c)) hs)
    (h : showTime c hs = .ok hs') : AllValues (NormalOr (shownTexts c)) hs' := by
  rcases hplacement : c.manner.placement with - | -
  · simp only [showTime, hplacement] at h
    obtain ⟨dated, hdated, h⟩ := bind_eq_ok_iff.mp h
    obtain ⟨hshows, huntouched⟩ := setText_spec hdated
    have hall' : AllValues (NormalOr (shownTexts c)) dated :=
      hall.of_shows hshows huntouched fun value =>
        normalOr_of_space_not_mem c.date.space_not_mem_stampText
    rcases homit : c.manner.omitToken with - | -
    · rw [homit] at h
      rcases htoken : c.credential.sessionToken with - | token
      · simp only [showToken, htoken] at h
        cases h
        exact hall'
      · simp only [showToken, htoken] at h
        obtain ⟨hshows, huntouched⟩ := setToken_spec h
        exact hall'.of_shows hshows huntouched fun value hvalue =>
          .inr ⟨token, token_mem_shownTexts hplacement homit htoken, hvalue⟩
    · rw [homit] at h
      cases h
      exact hall'
  · simp only [showTime, hplacement] at h
    cases h
    exact hall

theorem allValues_of_showPayload (hall : AllValues (NormalOr (shownTexts c)) hs)
    (h : showPayload c hs = .ok hs') : AllValues (NormalOr (shownTexts c)) hs' := by
  rcases hheader : c.manner.payloadHeader with - | -
  · simp only [showPayload, hheader] at h
    cases h
    exact hall
  · simp only [showPayload, hheader] at h
    obtain ⟨hshows, huntouched⟩ := setText_spec h
    exact hall.of_shows hshows huntouched fun value hvalue =>
      .inr ⟨_, payload_mem_shownTexts hheader, hvalue⟩

/-- **Every value is normalized, or is one of the texts that are shown.** -/
theorem allValues_of_canonicalHeaders (hspace : ' ' ∉ s.authority.toList)
    (h : canonicalHeaders c s = .ok hs) : AllValues (NormalOr (shownTexts c)) hs := by
  obtain ⟨named, timed, hnamed, htimed, hshown⟩ := canonicalHeaders_eq_ok_iff.mp h
  refine allValues_of_showPayload (allValues_of_showTime ?_ htimed) hshown
  intro name value hvalue
  have hnormal := values_normalize_of_nameHost hspace hnamed name
  rw [Headers.values_normalize] at hnormal
  exact .inl (List.map_inj_left.mp (hnormal.trans (List.map_id _).symm) value hvalue)

/-- Each of these texts is the only value of a field that is signed. -/
theorem exists_shows_of_canonicalHeaders (h : canonicalHeaders c s = .ok hs) :
    ∀ text ∈ shownTexts c, ∃ name ∈ signedNames hs, Shows hs name text := by
  have hsigned : ∀ {name text}, Shows hs name text → name ∉ unsignedNames →
      ∃ name ∈ signedNames hs, Shows hs name text := by
    intro name text hshows hname
    obtain ⟨value, hvalues, -⟩ := id hshows
    refine ⟨name, mem_signedNames.mpr ⟨?_, hname⟩, hshows⟩
    rw [Headers.has_eq_true_iff_values, hvalues]
    exact List.cons_ne_nil value []
  intro text htext
  rcases List.mem_append.mp htext with htoken | hpayload
  · split at htoken
    · next hshown =>
      have hpresents := (token_of_canonicalHeaders hshown.1 h).2 hshown.2
      obtain ⟨value, hvalues, hbytes, -⟩ :=
        (presents_iff_of_some (Option.mem_toList.mp htoken)).mp hpresents
      exact hsigned ⟨value, hvalues, hbytes⟩ (by decide)
    · cases htoken
  · split at hpayload
    · cases hpayload
    · next hheader =>
      rw [List.mem_singleton.mp hpayload]
      exact hsigned (shows_payload_of_canonicalHeaders hheader h) (by decide)

/-- **What is signed is normalized if the texts that are shown are tidy.** -/
theorem settled_iff_shownTexts {parts : Signable} (hspace : ' ' ∉ parts.authority.toList)
    (hfields : canonicalHeaders c parts = .ok s.headers)
    (h : CanonicalRequest.of c s = .ok canonical) :
    Settled s.headers ↔ ∀ text ∈ shownTexts c, AwsSigning.IsTidy ' ' text.toList := by
  -- a value that spells one of them is shown as that text
  have htidy : ∀ name ∈ signedNames s.headers, ∀ value ∈ s.headers.values name, ∀ text,
      value.bytes = Utf8.ofString text →
      (value.normalize = value ↔ AwsSigning.IsTidy ' ' text.toList) := by
    intro name hname value hvalue text hbytes
    obtain ⟨_, -, shown, -, hread⟩ := (texts_of_of h).1 name hname value hvalue
    rw [HeaderValue.normalize_eq_self_iff, ← HeaderValue.isTidy_iff hread,
      eq_of_text? hread hbytes]
  constructor
  · intro hsettled text htext
    obtain ⟨name, hname, value, hvalues, hbytes⟩ :=
      exists_shows_of_canonicalHeaders hfields text htext
    have hvalue : value ∈ s.headers.values name := by
      rw [hvalues]
      exact List.mem_singleton_self value
    exact (htidy name hname value hvalue text hbytes).mp (hsettled name hname value hvalue)
  · intro htexts name hname value hvalue
    rcases allValues_of_canonicalHeaders hspace hfields name value hvalue with hnormal | hspells
    · exact hnormal
    · obtain ⟨text, htext, hbytes⟩ := hspells
      exact (htidy name hname value hvalue text hbytes).mpr (htexts text htext)

/-! ### The canonical request -/

/-- A canonical request that was worked out is that of the request. -/
theorem exists_canonicalize_of_working {worked : Working}
    (h : ((sign c).outcome ⟨request, none⟩).2.working = some worked) :
    ∃ s canonical, canonicalize c request = .ok (s, canonical) ∧
      worked = working c canonical := by
  rw [outcome_sign, signed] at h
  split at h
  · cases h
  · split at h
    · cases h
    · next s canonical hform =>
      refine ⟨s, canonical, hform, ?_⟩
      dsimp only at h
      split at h
      · cases h
        rfl
      · cases h
        rfl

/-- The parts name the server that is written into the fields, and that is the server of the
request. -/
theorem exists_parts_of_canonicalize (h : canonicalize c request = .ok (s, canonical)) :
    ∃ parts : Signable, request.uri.authority = some parts.authority ∧
      canonicalHeaders c parts = .ok s.headers := by
  obtain ⟨parts, hparts, h⟩ := bind_eq_ok_iff.mp h
  obtain ⟨prepared, hprepared, h⟩ := bind_eq_ok_iff.mp h
  obtain ⟨_, -, h⟩ := bind_eq_ok_iff.mp h
  cases h
  obtain ⟨headers, hheaders, h⟩ := bind_eq_ok_iff.mp hprepared
  cases h
  exact ⟨{ parts with headers := parts.headers.remove .authorization },
    (server_of_ofUri hparts).1, hheaders⟩

/-- The fields that were signed are sent, unless a token that came with the request is replaced. -/
theorem untouched_of_sign {bench' : Bench} {made : String}
    (hform : canonicalize c request = .ok (s, canonical))
    (htoken : ¬(c.manner.omitToken = true ∧ request.headers.has .amzSecurityToken = true))
    (h : (sign c).outcome ⟨request, none⟩ = (.ok made, bench')) :
    ∀ name ∈ signedNames s.headers, Untouched s.headers bench'.request.headers name := by
  obtain ⟨-, s', canonical', request', hform', -, hdeliver, rfl⟩ := sign_eq_ok_iff.mp h
  obtain ⟨rfl, rfl⟩ := Prod.mk.inj (Except.ok.inj (hform.symm.trans hform'))
  rcases hplacement : c.manner.placement with - | -
  · obtain ⟨headers, uri, hheaders, -, rfl⟩ := (deliver_header_iff hplacement).mp hdeliver
    exact untouched_of_signHeaders hheaders
      (has_token_of_prepared (prepared_of_canonicalize hform).1 htoken)
  · obtain ⟨uri, -, rfl⟩ := (deliver_query_iff hplacement).mp hdeliver
    exact fun _ _ => rfl

/-- **The values in the canonical request are normalized, and a server that normalizes what it
receives finds them, exactly if the texts that the signer shows are tidy**: a session token that is
signed in a field, and what is signed in place of the payload, if that is sent. -/
theorem tidy_iff_of_working {worked : Working} (hspace : request.uri.Spaceless)
    (h : ((sign c).outcome ⟨request, none⟩).2.working = some worked) :
    ∃ s canonical, canonicalize c request = .ok (s, canonical) ∧ worked = working c canonical ∧
      (canonical.IsTidy ↔ ∀ text ∈ shownTexts c, IsTidy ' ' text.toList) ∧
      ∀ made bench', (sign c).outcome ⟨request, none⟩ = (.ok made, bench') →
        ¬(c.manner.omitToken = true ∧ request.headers.has .amzSecurityToken = true) →
        (Finds bench'.request.headers canonical ↔
          ∀ text ∈ shownTexts c, IsTidy ' ' text.toList) := by
  obtain ⟨s, canonical, hform, hworked⟩ := exists_canonicalize_of_working h
  obtain ⟨parts, hauthority, hfields⟩ := exists_parts_of_canonicalize hform
  have hof := (prepared_of_canonicalize hform).2
  have hsettled := settled_iff_shownTexts (hspace _ hauthority) hfields hof
  refine ⟨s, canonical, hform, hworked, ?_, fun made bench' hsign htoken => ?_⟩
  · rw [isTidy_iff_settled hof, hsettled]
  · rw [finds_iff_settled hof (untouched_of_sign hform htoken hsign), hsettled]

/-- A request with untidy values, signed with a token and a payload that are tidy. -/
theorem tidy_iff_of_working_firstTry :
    listingRequest.uri.Spaceless ∧ ∃ worked made bench' s canonical,
      ((sign firstTry).outcome ⟨listingRequest, none⟩).2.working = some worked ∧
      (sign firstTry).outcome ⟨listingRequest, none⟩ = (.ok made, bench') ∧
      canonicalize firstTry listingRequest = .ok (s, canonical) ∧
      worked = working firstTry canonical ∧
      canonical.IsTidy ∧ Finds bench'.request.headers canonical := by
  have hspace : listingRequest.uri.Spaceless :=
    @Uri.spaceless_of_parse "https://bucket.s3.amazonaws.com/a%20b?prefix=&max-keys=2&a=b" _ rfl
  obtain ⟨made, bench', h⟩ : ∃ made bench',
      (sign firstTry).outcome ⟨listingRequest, none⟩ = (.ok made, bench') :=
    exists_sign_ok canSign_firstTry
  obtain ⟨worked, hworked⟩ : ∃ worked, bench'.working = some worked := by
    obtain ⟨-, s, canonical, request, -, -, -, rfl⟩ := sign_eq_ok_iff.mp h
    exact ⟨_, rfl⟩
  have hsome : ((sign firstTry).outcome ⟨listingRequest, none⟩).2.working = some worked := by
    rw [h]
    exact hworked
  have htexts : ∀ text ∈ shownTexts firstTry, IsTidy ' ' text.toList := by
    have hspaceless : ∀ text ∈ shownTexts firstTry, ' ' ∉ text.toList := by decide
    exact fun text htext => isTidy_of_not_mem (hspaceless text htext)
  obtain ⟨s, canonical, hform, hworking, htidy, hfinds⟩ := tidy_iff_of_working hspace hsome
  exact ⟨hspace, worked, made, bench', s, canonical, hsome, h, hform, hworking,
    htidy.mpr htexts, (hfinds made bench' h (by decide)).mpr htexts⟩

/-- The token of a session that was not copied with care. -/
def spacedToken : Config :=
  { firstTry with
    credential :=
      { accessKeyId := "AKIDEXAMPLE", secretAccessKey := "secret", sessionToken := "a  b" } }

theorem canSign_spacedToken : CanSign spacedToken listingRequest where
  algorithm := rfl
  star := by decide
  path := ⟨_, rfl⟩
  fields := ⟨_, _, rfl, rfl, by decide⟩
  scope _ := by decide
  token _ token h := by cases h

/-- The two spaces are signed, and a server that normalizes what it receives signs one. -/
theorem not_tidy_spacedToken : ∃ made bench' s canonical,
    (sign spacedToken).outcome ⟨listingRequest, none⟩ = (.ok made, bench') ∧
    canonicalize spacedToken listingRequest = .ok (s, canonical) ∧
    bench'.working = some (working spacedToken canonical) ∧
    ¬canonical.IsTidy ∧ ¬Finds bench'.request.headers canonical := by
  obtain ⟨made, bench', h⟩ : ∃ made bench',
      (sign spacedToken).outcome ⟨listingRequest, none⟩ = (.ok made, bench') :=
    exists_sign_ok canSign_spacedToken
  obtain ⟨-, s, canonical, request, hform, -, -, hbench⟩ := sign_eq_ok_iff.mp h
  obtain ⟨parts, hauthority, hfields⟩ := exists_parts_of_canonicalize hform
  have hof := (prepared_of_canonicalize hform).2
  have hspace : ' ' ∉ parts.authority.toList := by
    rw [← Option.some.inj hauthority]
    decide
  have hunsettled : ¬Settled s.headers := by
    rw [settled_iff_shownTexts hspace hfields hof]
    intro htexts
    have hdouble := (htexts "a  b" (by decide)).double
    revert hdouble
    decide
  refine ⟨made, bench', s, canonical, h, hform, by rw [hbench], ?_, ?_⟩
  · rw [isTidy_iff_settled hof]
    exact hunsettled
  · rw [finds_iff_settled hof (untouched_of_sign hform (by decide) h)]
    exact hunsettled

end AwsSigning.Signing
