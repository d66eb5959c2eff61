/-
AwsSigning/Proofs/Signing/SecretKey.lean

The secret leaves only as a signature.

A secret can be given away by anything that is different under another secret:
the request that is sent, what is handed back, the texts that were worked out,
and whether and why there is no signature.  So a request is signed twice here,
under a config and under the config with another secret
(`Config.withSecret`), and the two runs are compared.

Up to the signature neither run looks at the secret, so the form and the texts
on the way to it are the same (`signed_withSecret`).  What is sent is an
*envelope* (`Envelope`) with a place for a signature, the end of one field or
the value of one parameter, and it is the envelope that is the same:

    sent        envelope with  HMAC (key secret)  stringToSign
    sent'       envelope with  HMAC (key secret') stringToSign

That there is an envelope for one signature means that there is the same one
for all of them (`deliver_alike`), since all signatures are made of the same
few characters.  No failure depends on which of these a signature has.
-/
import AwsSigning.Proofs.Signing.Procedure
import AwsSigning.Proofs.Signing.Success

namespace AwsSigning.Signing

variable {c : Config} {s : Signable} {hs : Headers} {request sent : Request} {made : String}

/-- The config with another secret. -/
def Config.withSecret (c : Config) (secret : String) : Config :=
  { c with credential := { c.credential with secretAccessKey := secret } }

/-! ### Texts that can be signatures -/

/-- The text is the signature of something, under some secret. -/
def IsSignature (made : String) : Prop := ∃ c text, made = signature c text

theorem IsSignature.isValueText (h : IsSignature made) : IsValueText made := by
  obtain ⟨c, text, rfl⟩ := h
  exact isValueText_of_isVisible (char_of_mem_signature (by decide))

theorem IsSignature.encodePart_eq (h : IsSignature made) : Query.encodePart made = made := by
  obtain ⟨c, text, rfl⟩ := h
  exact encodePart_signature c text

/-! ### Envelopes -/

/-- A request with a place for a signature. -/
inductive Envelope where
  /-- The signature is the end of an authorization, which stands between other fields.  The fields
  of the request given here do not count. -/
  | field (request : Request) (before after : Headers) (front : String)
  /-- The signature is the value of a parameter, which is written between others.  The target of
  the request given here does not count. -/
  | parameter (request : Request) (path : String) (before after : Query)

namespace Envelope

/-- Where the place for the signature is. -/
def placement : Envelope → Placement
  | field .. => .header
  | parameter .. => .query

/-- The request is the envelope with a signature in its place. -/
def Holds : Envelope → String → Request → Prop
  | field request before after front, made, sent =>
    (∀ other ∈ before ++ after, other.1 ≠ .authorization) ∧
      ∃ value : HeaderValue, value.bytes = Utf8.ofString (front ++ made) ∧
        value.sensitive = true ∧
          sent = { request with headers := before ++ (.authorization, value) :: after }
  | parameter request path before after, made, sent =>
    ∃ target : Target, target.path = path ∧
      target.query = some (Query.render (before ++ ("X-Amz-Signature", made) :: after) "=" "&") ∧
        sent = { request with uri := { request.uri with target := some target } }

end Envelope

/-! ### A signature in a field -/

theorem isValueText_append_iff {front back : String} :
    IsValueText (front ++ back) ↔ IsValueText front ∧ IsValueText back := by
  rw [IsValueText, Utf8.ofString_append, List.all_append, Bool.and_eq_true]
  rfl

/-- A text that may not stand in a field is refused, whatever is wrong with it. -/
theorem ofString_eq_error {text : String} (h : ¬IsValueText text) :
    HeaderValue.ofString text = .error (.http .headerValue) :=
  dif_neg h

/-- What stands before the signature in an authorization. -/
def authorizationFront (c : Config) (hs : Headers) : String :=
  algorithmName ++ " Credential=" ++ c.credentialScope ++ ", SignedHeaders="
    ++ signedNamesText hs ++ ", Signature="

theorem authorizationText_eq (c : Config) (hs : Headers) (made : String) :
    authorizationText c hs made = authorizationFront c hs ++ made := rfl

/-- The fields with a token that is added after the signature. -/
def showLateToken (c : Config) (hs : Headers) : Except Error Headers :=
  match lateToken? c with
  | some token => setToken hs token
  | none => .ok hs

theorem signHeaders_eq (c : Config) (hs : Headers) (made : String) :
    signHeaders c hs made = (do
      let value ← HeaderValue.ofString (authorizationFront c hs ++ made)
      showLateToken c (hs.set .authorization value.secret)) := by
  have hlate : ∀ fields : Headers, showLateToken c fields
      = if c.manner.omitToken then showToken c.credential fields else pure fields := by
    intro fields
    unfold showLateToken lateToken?
    cases c.manner.omitToken <;> rfl
  unfold signHeaders
  simp only [hlate, authorizationText_eq]

/-- A token that is added late stands behind the authorization. -/
theorem showLateToken_alike (c : Config) (hs : Headers) :
    (∃ e, ∀ value, showLateToken c (hs.set .authorization value) = .error e) ∨
    ∃ before after : Headers, (∀ other ∈ before ++ after, other.1 ≠ .authorization) ∧
      ∀ value, showLateToken c (hs.set .authorization value)
        = .ok (before ++ (.authorization, value) :: after) := by
  have hremoved : ∀ other ∈ hs.remove .authorization, other.1 ≠ .authorization := by
    intro other hother
    simpa using (List.mem_filter.mp hother).2
  rcases htoken : lateToken? c with - | token
  · refine .inr ⟨hs.remove .authorization, [], by simpa using hremoved, fun value => ?_⟩
    rw [showLateToken, htoken]
    rfl
  rcases hvalue : HeaderValue.ofString token with e | shown
  · refine .inl ⟨e, fun value => ?_⟩
    simp [showLateToken, htoken, setToken, hvalue, bind, Except.bind]
  · -- the token is set after the authorization, so it is the last field
    refine .inr ⟨(hs.remove .authorization).remove .amzSecurityToken,
      [(.amzSecurityToken, shown.secret)], ?_, fun value => ?_⟩
    · intro other hother
      rcases List.mem_append.mp hother with hother | hother
      · exact hremoved other (List.mem_filter.mp hother).1
      · obtain rfl := List.mem_singleton.mp hother
        exact show HeaderName.amzSecurityToken ≠ .authorization by decide
    · have hname : HeaderName.authorization ≠ .amzSecurityToken := by decide
      simp [showLateToken, htoken, setToken, hvalue, bind, Except.bind, pure, Except.pure,
        Headers.set, Headers.append, Headers.remove, List.filter_append, hname]

/-- **The fields are the same for every signature, but for the end of the authorization.** -/
theorem signHeaders_alike (c : Config) (hs : Headers) :
    (∃ e, ∀ made, IsSignature made → signHeaders c hs made = .error e) ∨
    ∃ before after : Headers, (∀ other ∈ before ++ after, other.1 ≠ .authorization) ∧
      ∀ made, IsSignature made → ∃ value : HeaderValue,
        value.bytes = Utf8.ofString (authorizationFront c hs ++ made) ∧ value.sensitive = true ∧
          signHeaders c hs made = .ok (before ++ (.authorization, value) :: after) := by
  by_cases hfront : IsValueText (authorizationFront c hs)
  · have hvalue : ∀ made, IsSignature made → ∃ value : HeaderValue,
        HeaderValue.ofString (authorizationFront c hs ++ made) = .ok value ∧
          signHeaders c hs made = showLateToken c (hs.set .authorization value.secret) := by
      intro made hmade
      obtain ⟨value, hvalue⟩ :=
        (isValueText_append_iff.mpr ⟨hfront, hmade.isValueText⟩).exists_ofString
      exact ⟨value, hvalue, by rw [signHeaders_eq, hvalue]; rfl⟩
    rcases showLateToken_alike c hs with ⟨e, hall⟩ | ⟨before, after, hothers, hall⟩
    · refine .inl ⟨e, fun made hmade => ?_⟩
      obtain ⟨value, -, hmade⟩ := hvalue made hmade
      rw [hmade, hall]
    · refine .inr ⟨before, after, hothers, fun made hmade => ?_⟩
      obtain ⟨value, hwritten, hmade⟩ := hvalue made hmade
      have hbytes : value.bytes = Utf8.ofString (authorizationFront c hs ++ made) :=
        HeaderValue.bytes_of_ofString hwritten
      exact ⟨value.secret, hbytes, rfl, by rw [hmade, hall]⟩
  · -- the front is refused with any signature behind it
    refine .inl ⟨.http .headerValue, fun made _ => ?_⟩
    have htext : ¬IsValueText (authorizationFront c hs ++ made) :=
      fun h => hfront (isValueText_append_iff.mp h).1
    rw [signHeaders_eq, ofString_eq_error htext]
    rfl

/-! ### Delivery -/

/-- A signature that goes into a field is delivered in one and the same envelope, or never. -/
theorem deliver_field_alike (hplacement : c.manner.placement = .header) :
    (∃ e, ∀ made, IsSignature made → deliver c request s made = .error e) ∨
    ∃ envelope : Envelope, envelope.placement = .header ∧ ∀ made, IsSignature made →
      ∃ sent, deliver c request s made = .ok sent ∧ envelope.Holds made sent := by
  rcases signHeaders_alike c s.headers with ⟨e, hall⟩ | ⟨before, after, hothers, hall⟩
  · refine .inl ⟨e, fun made hmade => ?_⟩
    rw [deliver, attach, hplacement]
    dsimp only
    rw [hall made hmade]
    rfl
  rcases huri : s.uri with e | uri
  · refine .inl ⟨e, fun made hmade => ?_⟩
    obtain ⟨value, -, -, hheaders⟩ := hall made hmade
    have hsent : Signable.uri { s with headers := before ++ (.authorization, value) :: after }
        = .error e := huri
    simp [deliver, attach, hplacement, hheaders, bind, Except.bind, pure, Except.pure, hsent]
  · refine .inr ⟨.field { request with method := s.method, uri } before after
      (authorizationFront c s.headers), rfl, fun made hmade => ?_⟩
    obtain ⟨value, hbytes, hsensitive, hheaders⟩ := hall made hmade
    exact ⟨_, (deliver_header_iff hplacement).mpr ⟨_, uri, hheaders, huri, rfl⟩, hothers, value,
      hbytes, hsensitive, rfl⟩

/-- A signature that goes into the query is delivered in one and the same envelope, or never. -/
theorem deliver_parameter_alike (hplacement : c.manner.placement = .query)
    (hprepared : Prepared c request s) :
    (∃ e, ∀ made, IsSignature made → deliver c request s made = .error e) ∨
    ∃ envelope : Envelope, envelope.placement = .query ∧ ∀ made, IsSignature made →
      ∃ sent, deliver c request s made = .ok sent ∧ envelope.Holds made sent := by
  obtain ⟨sorted, -, hquery, -⟩ := hprepared.exists_sorted
  have hencode : ∀ made, IsSignature made →
      s.query ++ signedParameters c made = Query.encode (sorted ++ lateParameters c made) := by
    intro made hmade
    rw [Query.encode_append, encode_lateParameters hmade.encodePart_eq, hquery]
  have hne : ∀ made, sorted ++ lateParameters c made ≠ [] := fun made => by simp [lateParameters]
  by_cases hstar : s.path = "*"
  · -- a lone star takes no query, and there is one now
    refine .inl ⟨.http (.uri .pathWithoutSlash), fun made hmade => ?_⟩
    have huri := Signable.uri_of_star (s := { s with query := s.query ++ signedParameters c made })
      hstar (hne made) (hencode made hmade)
    simp [deliver, attach, hplacement, bind, Except.bind, huri]
  · refine .inr ⟨.parameter
      { request with method := s.method, uri := ⟨some s.scheme, some s.authority, none⟩,
                     headers := s.headers }
      s.path s.query (signedParameters c "").tail, rfl, fun made hmade => ?_⟩
    obtain ⟨target, hwire, hpath, hwritten⟩ := Signable.exists_target
      (s := { s with query := s.query ++ signedParameters c made })
      hprepared.isTarget_path (fun h => absurd h hstar) (hencode made hmade)
    rw [Signable.writtenQuery, if_neg (hne made), ← hencode made hmade] at hwritten
    exact ⟨_, (deliver_query_iff hplacement).mpr ⟨_, Signable.uri_of_render hwire, rfl⟩,
      target, hpath, hwritten, rfl⟩

/-- **A signature is delivered in one and the same envelope, or never.** -/
theorem deliver_alike (hprepared : Prepared c request s) :
    (∃ e, ∀ made, IsSignature made → deliver c request s made = .error e) ∨
    ∃ envelope : Envelope, envelope.placement = c.manner.placement ∧ ∀ made, IsSignature made →
      ∃ sent, deliver c request s made = .ok sent ∧ envelope.Holds made sent := by
  rcases hplacement : c.manner.placement with - | -
  · exact deliver_field_alike hplacement
  · exact deliver_parameter_alike hplacement hprepared

/-! ### Two secrets -/

/-- The signature of a text under a secret, with the key that is derived for the day, the region and
the service of a config. -/
def signatureUnder (c : Config) (secret stringToSign : String) : String :=
  Hmac.hexDigest (derivedKey secret c.date.dateText c.region c.service)
    (Utf8.ofString stringToSign)

theorem signature_withSecret (c : Config) (secret text : String) :
    signature (c.withSecret secret) text = signatureUnder c secret text := by
  rw [signature, signingKey_eq_derivedKey]
  rfl

/-- Two runs under two secrets come to the same but for the signature. -/
inductive AlikeButSignature (c : Config) (secret secret' : String) (request : Request) :
    Except Error String × Bench → Except Error String × Bench → Prop
  /-- Neither is signed, for the same reason and at the same point, and the request is left as it
  was. -/
  | failed (e : Error) (working : Option Working) :
    AlikeButSignature c secret secret' request (.error e, ⟨request, working⟩)
      (.error e, ⟨request, working⟩)
  /-- Both are signed, and the same texts lead to signatures that are sent in the same envelope. -/
  | signed (w : Working) (envelope : Envelope) (sent sent' : Request)
      (scope : w.scope = scopeText c.date.dateText c.region c.service)
      (placement : envelope.placement = c.manner.placement)
      (holds : envelope.Holds (signatureUnder c secret w.stringToSign) sent)
      (holds' : envelope.Holds (signatureUnder c secret' w.stringToSign) sent') :
    AlikeButSignature c secret secret' request
      (.ok (signatureUnder c secret w.stringToSign), ⟨sent, some w⟩)
      (.ok (signatureUnder c secret' w.stringToSign), ⟨sent', some w⟩)

/-- Up to the signature the secret is not looked at, and what is delivered is the signature. -/
theorem signed_withSecret (c : Config) (secret : String) (bench : Bench) :
    signed (c.withSecret secret) bench =
      match c.manner.algorithm with
      | .asymmetric => (.error (.signing .asymmetric), bench)
      | .shared =>
        match canonicalize c bench.request with
        | .error e => (.error e, bench)
        | .ok (prepared, canonical) =>
          let bench := { bench with working := some (working c canonical) }
          let made := signatureUnder c secret (working c canonical).stringToSign
          match deliver c bench.request prepared made with
          | .error e => (.error e, bench)
          | .ok request => (.ok made, { bench with request }) := by
  simp only [← signature_withSecret]
  rfl

/-- **The secret leaves only as a signature.**  Under any two secrets, whether and why a request is
not signed, the texts that were worked out, and all that is sent but the signature are the same. -/
theorem sign_withSecret (c : Config) (secret secret' : String) (bench : Bench) :
    AlikeButSignature c secret secret' bench.request
      ((sign (c.withSecret secret)).outcome bench)
      ((sign (c.withSecret secret')).outcome bench) := by
  rw [outcome_sign, outcome_sign, signed_withSecret, signed_withSecret]
  rcases c.manner.algorithm with - | -
  · rcases hform : canonicalize c bench.request with e | ⟨prepared, canonical⟩
    · exact .failed e bench.working
    have hsignature : ∀ secret, IsSignature
        (signatureUnder c secret (working c canonical).stringToSign) :=
      fun secret => ⟨c.withSecret secret, _, (signature_withSecret c secret _).symm⟩
    dsimp only
    rcases deliver_alike (prepared_of_canonicalize hform).1 with
      ⟨e, hall⟩ | ⟨envelope, hplacement, hall⟩
    · rw [hall _ (hsignature secret), hall _ (hsignature secret')]
      exact .failed e _
    · obtain ⟨sent, hsent, hholds⟩ := hall _ (hsignature secret)
      obtain ⟨sent', hsent', hholds'⟩ := hall _ (hsignature secret')
      rw [hsent, hsent']
      exact .signed _ envelope sent sent' c.scope_eq_scopeText hplacement hholds hholds'
  · exact .failed _ bench.working

end AwsSigning.Signing
