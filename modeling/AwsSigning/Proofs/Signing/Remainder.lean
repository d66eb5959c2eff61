/-
AwsSigning/Proofs/Signing/Remainder.lean

What signing leaves of a request.

Signing moves the header fields out of a request and the URI apart, rewrites
every value, writes a few fields of its own, and puts all of it back.  What
may come out different is listed by the names of these fields (`ownNames`),
which are fewer for a signature in the query.  Under every other name there
are as many values as before, in the same order, and each has kept its words
and whether it must not be shown (`Respaced`).  The rest of the request is what
it was (`leavesRest_of_sign`); only a scheme that was missing is named, and a
server, if no field named it.
-/
import Mathlib.Data.List.Forall2
import AwsSigning.Proofs.Signing.QueryContent
import AwsSigning.Proofs.Signing.Resigning

namespace AwsSigning.Signing

variable {c : Config} {hs hs' : Headers} {s : Signable} {name : HeaderName} {made : String}

/-! ### Values with other spaces -/

/-- A value with the words of another one and single spaces between them. -/
structure Respaced (value value' : HeaderValue) : Prop where
  bytes : value'.bytes = List.intercalate [0x20] value.words
  sensitive : value'.sensitive = value.sensitive

theorem respaced_normalize (value : HeaderValue) : Respaced value value.normalize :=
  ⟨value.bytes_normalize, rfl⟩

theorem forall₂_respaced_normalize (hs : Headers) (name : HeaderName) :
    List.Forall₂ Respaced (hs.values name) (hs.normalize.values name) := by
  rw [Headers.values_normalize, List.forall₂_map_right_iff, List.forall₂_same]
  exact fun value _ => respaced_normalize value

/-! ### Fields of the signer -/

/-- The names of the fields that a signing may write. -/
def ownNames : Placement → List HeaderName
  | .header => [.authorization, .host, .amzDate, .amzSecurityToken, .amzContentSha256]
  | .query => [.authorization, .host, .amzContentSha256]

/-- A server that is named already is not named again. -/
theorem untouched_of_nameHost {authority : String} (hhost : hs.has .host = true)
    (h : nameHost authority hs = .ok hs') : ∀ name, Untouched hs hs' name := by
  rw [nameHost, if_pos hhost] at h
  cases h
  exact fun _ => rfl

/-- For a signature in the query, no field is written that shows the time or a token. -/
theorem untouched_of_showTime (h : showTime c hs = .ok hs') :
    ∀ name ∉ ownNames c.manner.placement, Untouched hs hs' name := by
  rcases hplacement : c.manner.placement with - | -
  · intro name hname
    simp only [ownNames, List.mem_cons, not_or] at hname
    exact (showTime_spec h).2.2 name hname.2.2.1 hname.2.2.2.1
  · rw [showTime, hplacement] at h
    cases h
    exact fun _ _ => rfl

/-- The time is written after the server, and does not touch it. -/
theorem untouched_host_of_showTime (h : showTime c hs = .ok hs') : Untouched hs hs' .host :=
  (showTime_spec h).2.2 .host (by decide) (by decide)

/-- **Before the signature is made**, the fields of other names have been normalized, and so has a
field that names the server. -/
theorem values_of_canonicalHeaders (h : canonicalHeaders c s = .ok hs) :
    (∀ name ∉ ownNames c.manner.placement, hs.values name = s.headers.normalize.values name) ∧
      (s.headers.has .host = true → hs.values .host = s.headers.normalize.values .host) := by
  obtain ⟨named, timed, hnamed, htimed, hshown⟩ := canonicalHeaders_eq_ok_iff.mp h
  have hpayload : ∀ name ≠ .amzContentSha256, Untouched timed hs name :=
    showPayload_spec hshown
  constructor
  · intro name hname
    have hout : name ≠ .host ∧ name ≠ .amzContentSha256 := by
      constructor
      · rintro rfl
        revert hname
        cases c.manner.placement <;> decide
      · rintro rfl
        revert hname
        cases c.manner.placement <;> decide
    calc hs.values name
        = timed.values name := hpayload name hout.2
      _ = named.values name := untouched_of_showTime htimed name hname
      _ = s.headers.normalize.values name := (nameHost_spec hnamed).2 name hout.1
  · intro hhost
    rw [← Headers.has_normalize] at hhost
    calc hs.values .host
        = timed.values .host := hpayload .host (by decide)
      _ = named.values .host := untouched_host_of_showTime htimed
      _ = s.headers.normalize.values .host := untouched_of_nameHost hhost hnamed .host

/-! ### The signature -/

/-- The signature is the only value under its name, and must not be shown. -/
theorem exists_authorization_of_signHeaders (h : signHeaders c hs made = .ok hs') :
    ∃ value, hs'.values .authorization = [value] ∧ value.sensitive = true := by
  obtain ⟨value, -, h⟩ := bind_eq_ok_iff.mp h
  have hsigned : (hs.set .authorization value.secret).values .authorization = [value.secret] :=
    Headers.values_set_self _ _ _
  dsimp only at h
  split at h
  · exact ⟨value.secret, (showToken_spec h .authorization (by decide)).trans hsigned, rfl⟩
  · cases h
    exact ⟨value.secret, hsigned, rfl⟩

/-- Nothing else is written with the signature but a token that was left out. -/
theorem untouched_rest_of_signHeaders (h : signHeaders c hs made = .ok hs') :
    ∀ name ≠ .authorization, name ≠ .amzSecurityToken → Untouched hs hs' name :=
  fun name hauthorization htoken => (signHeaders_spec h).2 name hauthorization fun _ => htoken

/-! ### The whole request -/

/-- What signing leaves of a request. -/
structure LeavesRest (placement : Placement) (request request' : Request) : Prop where
  method : request'.method = request.method
  version : request'.version = request.version
  extensions : request'.extensions = request.extensions
  /-- A scheme that is missing is named. -/
  scheme : request'.uri.scheme = some (request.uri.scheme.getD "http")
  authority : request'.uri.authority = request.uri.authority
  path : request'.uri.path = request.uri.path
  /-- No field comes or goes. -/
  names : ∀ name ∉ ownNames placement, request'.headers.has name = request.headers.has name
  /-- Their values differ in spaces only. -/
  fields : ∀ name ∉ ownNames placement,
    List.Forall₂ Respaced (request.headers.values name) (request'.headers.values name)
  /-- So do those that name the server, if there are any. -/
  host : request.headers.has .host = true →
    List.Forall₂ Respaced (request.headers.values .host) (request'.headers.values .host)

/-- A signature is put into the fields and the URI only. -/
theorem kept_of_deliver {request request' : Request}
    (h : deliver c request s made = .ok request') :
    request'.method = s.method ∧ request'.version = request.version ∧
      request'.extensions = request.extensions := by
  obtain ⟨sent, hsent, h⟩ := bind_eq_ok_iff.mp h
  obtain ⟨uri, -, h⟩ := bind_eq_ok_iff.mp h
  cases h
  exact ⟨method_of_attach hsent, rfl, rfl⟩

/-- The fields of a signed request, told from those that came with it. -/
theorem values_of_sign {bench bench' : Bench} (h : (sign c).outcome bench = (.ok made, bench')) :
    (∀ name ∉ ownNames c.manner.placement,
      bench'.request.headers.values name = bench.request.headers.normalize.values name) ∧
    (bench.request.headers.has .host = true →
      bench'.request.headers.values .host = bench.request.headers.normalize.values .host) := by
  obtain ⟨-, s, canonical, request, hform, rfl, hdeliver, rfl⟩ := sign_eq_ok_iff.mp h
  obtain ⟨parts, hparts, hfields⟩ := (prepared_of_canonicalize hform).1.headers
  obtain ⟨hrest, hhost⟩ := values_of_canonicalHeaders hfields
  -- an authorization that came with the request is gone, and it is not asked for
  have hkept : ∀ name ≠ .authorization,
      parts.headers.normalize.values name = bench.request.headers.normalize.values name := by
    intro name hname
    rw [Headers.values_normalize, Headers.values_normalize, hparts,
      Headers.values_remove_of_ne hname]
  have hkeptHost : bench.request.headers.has .host = true → parts.headers.has .host = true := by
    rw [hparts, Headers.has_remove_of_ne (by decide)]
    exact id
  dsimp only
  rcases hplacement : c.manner.placement with - | -
  · rw [hplacement] at hrest
    obtain ⟨headers, uri, hheaders, -, rfl⟩ := (deliver_header_iff hplacement).mp hdeliver
    have hsigned := untouched_rest_of_signHeaders hheaders
    refine ⟨fun name hname => ?_, fun hhas => ?_⟩
    · have hout : name ≠ .authorization ∧ name ≠ .amzSecurityToken := by
        simp only [ownNames, List.mem_cons, not_or] at hname
        exact ⟨hname.1, hname.2.2.2.1⟩
      rw [hsigned name hout.1 hout.2, hrest name hname, hkept name hout.1]
    · rw [hsigned .host (by decide) (by decide), hhost (hkeptHost hhas), hkept .host (by decide)]
  · rw [hplacement] at hrest
    obtain ⟨uri, -, rfl⟩ := (deliver_query_iff hplacement).mp hdeliver
    refine ⟨fun name hname => ?_, fun hhas => ?_⟩
    · have hout : name ≠ .authorization := by
        simp only [ownNames, List.mem_cons, not_or] at hname
        exact hname.1
      rw [hrest name hname, hkept name hout]
    · rw [hhost (hkeptHost hhas), hkept .host (by decide)]

/-- What a signature in a field is shown with. -/
theorem shown_of_sign {bench bench' : Bench} (hplacement : c.manner.placement = .header)
    (h : (sign c).outcome bench = (.ok made, bench')) :
    (∃ value, bench'.request.headers.values .authorization = [value] ∧ value.sensitive = true) ∧
      ∃ value, bench'.request.headers.values .amzDate = [value] := by
  obtain ⟨parts, headers, text, hparts, hfields, -, hsigned⟩ := exists_fields_of_sign hplacement h
  obtain ⟨value, hdate, -⟩ := (canonicalHeaders_spec hfields).2.1 hplacement
  refine ⟨exists_authorization_of_signHeaders hsigned, value, ?_⟩
  exact (untouched_rest_of_signHeaders hsigned .amzDate (by decide) (by decide)).trans hdate

/-- **Signing leaves the rest of a request alone.**  A signature in a field is the only value under
its name and must not be shown, and there is one value for the time. -/
theorem leavesRest_of_sign {bench bench' : Bench}
    (h : (sign c).outcome bench = (.ok made, bench')) :
    LeavesRest c.manner.placement bench.request bench'.request ∧
    (c.manner.placement = .header →
      (∃ value, bench'.request.headers.values .authorization = [value] ∧ value.sensitive = true) ∧
        ∃ value, bench'.request.headers.values .amzDate = [value]) := by
  obtain ⟨s, q, hmade⟩ := exists_madeOf_of_sign h
  obtain ⟨hscheme, hauthority⟩ := server_of_uri hmade.uri
  obtain ⟨hrest, hhost⟩ := values_of_sign h
  refine ⟨?_, fun hplacement => shown_of_sign hplacement h⟩
  obtain ⟨-, s, canonical, request, hform, rfl, hdeliver, rfl⟩ := sign_eq_ok_iff.mp h
  obtain ⟨hmethod, hversion, hextensions⟩ := kept_of_deliver hdeliver
  constructor
  · rw [hmethod, method_of_canonicalize hform]
  · exact hversion
  · exact hextensions
  · rw [hscheme, hmade.scheme]
  · rw [hauthority, hmade.authority]
  · exact hmade.target.1
  · intro name hname
    rw [Bool.eq_iff_iff, Headers.has_eq_true_iff_values, hrest name hname,
      ← Headers.has_eq_true_iff_values, Headers.has_normalize]
  · intro name hname
    rw [hrest name hname]
    exact forall₂_respaced_normalize _ name
  · intro hhas
    rw [hhost hhas]
    exact forall₂_respaced_normalize _ .host

theorem leavesRest_of_sign_listing :
    ∃ made bench', (sign listing).outcome ⟨listingRequest, none⟩ = (.ok made, bench') ∧
      LeavesRest .header listingRequest bench'.request ∧
        (∃ value, bench'.request.headers.values .authorization = [value] ∧
          value.sensitive = true) ∧
        ∃ value, bench'.request.headers.values .amzDate = [value] := by
  obtain ⟨made, bench', h⟩ : ∃ made bench',
      (sign listing).outcome ⟨listingRequest, none⟩ = (.ok made, bench') :=
    exists_sign_ok canSign_listing
  obtain ⟨hrest, hshown⟩ := leavesRest_of_sign h
  exact ⟨made, bench', h, hrest, hshown rfl⟩

end AwsSigning.Signing
