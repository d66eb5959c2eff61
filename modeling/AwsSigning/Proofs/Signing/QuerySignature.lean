/-
AwsSigning/Proofs/Signing/QuerySignature.lean

A URL that was signed verifies.

The parameters of a signed URL come in two groups.  The first ones were signed
and stand in their canonical order, among them the names of the signed fields,
the point in time and the scope.  The last ones were added later: the
signature, and a token that is to be left out of it.

    front & X-Amz-Signature=made          (& X-Amz-Security-Token=token)

The late ones are told apart by their names alone, so no parameter of the
request may have one of the names that signing adds (`presignNames`).  Then
taking the late ones away gives back the first group, and each of the names
the verifier looks for is there exactly once (`querySignature?_of_sign`).
-/
import AwsSigning.Proofs.Signing.Success
import AwsSigning.Proofs.Signing.Verifier

namespace AwsSigning.Signing

open Verifier

variable {c : Config} {bench bench' : Bench} {hs : Headers} {made : String}

/-! ### Names that signing adds -/

/-- The names of the parameters that come with a signature. -/
def presignNames : List String :=
  ["X-Amz-Algorithm", "X-Amz-Credential", "X-Amz-Date", "X-Amz-Expires", "X-Amz-SignedHeaders",
   "X-Amz-Security-Token", "X-Amz-Signature"]

/-- A config that was built is signed in the manner of its draft, which was checked. -/
theorem manner_of_build {d : Draft} {now : Instant} (h : d.build now = .ok c) :
    c.manner = d.manner ∧ d.manner.check = .ok () := by
  obtain ⟨region, -, h⟩ := bind_eq_ok_iff.mp h
  obtain ⟨service, -, h⟩ := bind_eq_ok_iff.mp h
  dsimp only at h
  split at h
  · obtain ⟨credential, -, h⟩ := bind_eq_ok_iff.mp h
    obtain ⟨⟨⟩, hcheck, h⟩ := bind_eq_ok_iff.mp h
    cases h
    exact ⟨rfl, hcheck⟩
  · cases h

/-- A config that was built for a signature in the query says how long it is good for. -/
theorem validFor_of_build {d : Draft} {now : Instant} (h : d.build now = .ok c)
    (hplacement : c.manner.placement = .query) : ∃ validFor, c.manner.validFor = some validFor := by
  obtain ⟨hmanner, hcheck⟩ := manner_of_build h
  rcases hvalid : c.manner.validFor with - | validFor
  · rw [← hmanner] at hcheck
    simp [Manner.check, hplacement, hvalid] at hcheck
  · exact ⟨validFor, rfl⟩

/-- Before the signature every name is added at most once; here are those that a verifier looks
for. -/
structure Announces (c : Config) (hs : Headers) (added : Query) : Prop where
  credential : added.filter (·.1 = "X-Amz-Credential")
    = [("X-Amz-Credential", c.credentialScope)]
  date : added.filter (·.1 = "X-Amz-Date") = [("X-Amz-Date", c.date.stampText)]
  names : added.filter (·.1 = "X-Amz-SignedHeaders")
    = [("X-Amz-SignedHeaders", signedNamesText hs)]
  early : ∀ pair ∈ added, isLate c.manner.omitToken pair = false
  named : ∀ pair ∈ added, pair.1 ≠ ""

theorem announces_addedParameters (hplacement : c.manner.placement = .query) {validFor : Duration}
    (hvalid : c.manner.validFor = some validFor) (hs : Headers) :
    Announces c hs (addedParameters c hs) := by
  have hadded : addedParameters c hs = signatureParameters c hs validFor := by
    simp [addedParameters, hplacement, hvalid]
  rw [hadded, signatureParameters]
  rcases homit : c.manner.omitToken with - | -
  · rcases c.credential.sessionToken with - | token <;> constructor <;> simp [isLate, homit]
  · constructor <;> simp [isLate]

/-! ### Parameters that are added late -/

/-- What stands behind the signature in the query. -/
def lateText (c : Config) : String :=
  match lateToken? c with
  | some token => "&" ++ Query.renderPair "=" ("X-Amz-Security-Token", encodeParameter token)
  | none => ""

/-- The late parameters are known by their names. -/
theorem isLate_of_mem_lateParameters :
    ∀ pair ∈ lateParameters c made, isLate c.manner.omitToken pair = true := by
  intro pair hpair
  rcases List.mem_cons.mp hpair with rfl | htoken
  · simp [isLate]
  · simp only [lateToken?, Option.mem_toList, Option.map_eq_some_iff,
      Option.ite_none_right_eq_some] at htoken
    obtain ⟨token, ⟨homit, -⟩, rfl⟩ := htoken
    simp [isLate, homit]

/-- The late parameters as they are written. -/
theorem render_signedParameters (hne : made ≠ "") :
    Query.render (signedParameters c made) "=" "&" = "X-Amz-Signature=" ++ made ++ lateText c := by
  have hpair : Query.renderPair "=" ("X-Amz-Signature", made) = "X-Amz-Signature=" ++ made := by
    rw [Query.renderPair, if_neg hne]
    rfl
  rw [signedParameters_eq, Query.render, lateText, List.map_cons, hpair]
  rcases lateToken? c with - | token
  · simp
  · simp only [Option.map_some, Option.toList_some, List.map_cons, List.map_nil,
      String.intercalate_cons_cons, String.intercalate_singleton, String.append_assoc]

/-! ### The parameters of a signed URL -/

variable {sorted incoming added : Query}

/-- A parameter that is there once is found, in whatever order. -/
theorem soleParameter?_of_perm {name value : String} (hperm : sorted.Perm (incoming ++ added))
    (hincoming : ∀ pair ∈ incoming, pair.1 ≠ name)
    (hadded : added.filter (·.1 = name) = [(name, value)]) :
    soleParameter? sorted name = some value := by
  have hnone : incoming.filter (·.1 = name) = [] := by
    simpa [List.filter_eq_nil_iff] using hincoming
  have hfilter : (sorted.filter (·.1 = name)).Perm [(name, value)] := by
    have h := hperm.filter (fun pair => decide (pair.1 = name))
    rwa [List.filter_append, hnone, hadded, List.nil_append] at h
  simp [soleParameter?, List.perm_singleton.mp hfilter]

/-- No parameter that was signed looks like a late one. -/
theorem isLate_of_mem_signed (hperm : sorted.Perm (incoming ++ added))
    (hadded : Announces c hs added) (hnames : ∀ pair ∈ incoming, pair.1 ∉ presignNames) :
    ∀ pair ∈ sorted, isLate c.manner.omitToken pair = false := by
  intro pair hpair
  rcases List.mem_append.mp (hperm.mem_iff.mp hpair) with hpair | hpair
  · have hname := hnames pair hpair
    simp only [presignNames, List.mem_cons, List.not_mem_nil, or_false, not_or] at hname
    simp [isLate, hname]
  · exact hadded.early pair hpair

/-- Taking the late parameters away gives back those that were signed. -/
theorem filter_isLate (h : ∀ pair ∈ sorted, isLate c.manner.omitToken pair = false) :
    (sorted ++ lateParameters c made).filter (!isLate c.manner.omitToken ·) = sorted := by
  have hkept : sorted.filter (!isLate c.manner.omitToken ·) = sorted :=
    List.filter_eq_self.mpr fun pair hpair => by rw [h pair hpair]; rfl
  have hgone : (lateParameters c made).filter (!isLate c.manner.omitToken ·) = [] :=
    List.filter_eq_nil_iff.mpr fun pair hpair => by
      rw [isLate_of_mem_lateParameters pair hpair]
      exact Bool.false_ne_true
  rw [List.filter_append, hkept, hgone, List.append_nil]

/-- The late parameters are written behind those that were signed. -/
theorem writtenQuery_late (hsorted : sorted ≠ []) (hne : made ≠ "")
    (hwritten : Query.encodePart made = made) :
    Signable.writtenQuery (sorted ++ lateParameters c made)
      = some (sorted.encode.render "=" "&" ++ "&X-Amz-Signature=" ++ made ++ lateText c) := by
  have hencode : sorted.encode ≠ [] := by simpa [Query.encode] using hsorted
  have hmark : "&X-Amz-Signature=" = "&" ++ "X-Amz-Signature=" := rfl
  rw [Signable.writtenQuery, if_neg (by simp [hsorted]), Query.encode_append,
    encode_lateParameters hwritten, Query.render_append hencode (by simp [signedParameters]),
    render_signedParameters hne]
  simp only [hmark, String.append_assoc]

/-- Some parameters are signed in any case. -/
theorem ne_nil_of_announces (hperm : sorted.Perm (incoming ++ added))
    (hadded : Announces c hs added) : sorted ≠ [] := by
  rintro rfl
  have hdate := hadded.date
  rw [(List.append_eq_nil_iff.mp hperm.nil_eq.symm).2] at hdate
  cases hdate

/-- No parameter of a signed URL is written as nothing. -/
theorem ne_empty_of_mem_signed (hperm : sorted.Perm (incoming ++ added))
    (hadded : Announces c hs added) (hpairs : ∀ pair ∈ incoming, pair ≠ ("", "")) :
    ∀ pair ∈ sorted ++ lateParameters c made, pair ≠ ("", "") := by
  intro pair hpair
  rcases List.mem_append.mp hpair with hpair | hpair
  · rcases List.mem_append.mp (hperm.mem_iff.mp hpair) with hpair | hpair
    · exact hpairs pair hpair
    · exact fun e => hadded.named pair hpair (congrArg Prod.fst e)
  · rintro rfl
    have hlate := isLate_of_mem_lateParameters _ hpair
    revert hlate
    simp [isLate]

/-! ### What is sent -/

variable {s : Signable} {request request' : Request}

/-- What is sent of a signed URL: the parameters that were signed, in their order, and then the
late ones. -/
structure Sent (c : Config) (s : Signable) (sorted : Query) (made : String) (request : Request) :
    Prop where
  method : request.method = s.method
  headers : request.headers = s.headers
  path : request.uri.path = s.path
  query : request.uri.query = Signable.writtenQuery (sorted ++ lateParameters c made)
  /-- Parameters that are written at all are read back. -/
  parameters : (∀ pair ∈ sorted ++ lateParameters c made, pair ≠ ("", "")) →
    request.uri.parameters = sorted ++ lateParameters c made

theorem sent_of_deliver (hplacement : c.manner.placement = .query)
    (hpath : isTarget s.path none = true) (hquery : s.query = sorted.encode)
    (hwritten : Query.encodePart made = made) (h : deliver c request s made = .ok request') :
    Sent c s sorted made request' := by
  obtain ⟨uri, huri, rfl⟩ := (deliver_query_iff hplacement).mp h
  have hsent : s.query ++ signedParameters c made
      = Query.encode (sorted ++ lateParameters c made) := by
    rw [hquery, Query.encode_append, encode_lateParameters hwritten]
  obtain ⟨hpath', hquery'⟩ := Signable.target_of_uri
    (s := { s with query := s.query ++ signedParameters c made }) hpath hsent huri
  constructor
  · rfl
  · rfl
  · exact hpath'
  · exact hquery'
  · intro hpairs
    exact (Signable.uri_of_encoded (s := { s with query := s.query ++ signedParameters c made })
      hpath hsent hpairs huri).2

/-- Behind the signature there is nothing but a late token. -/
theorem Sent.exists_front (h : Sent c s sorted made request) (hsorted : sorted ≠ [])
    (hne : made ≠ "") (hwritten : Query.encodePart made = made) :
    ∃ front, request.uri.query = some (front ++ "&X-Amz-Signature=" ++ made ++ lateText c) := by
  refine ⟨sorted.encode.render "=" "&", ?_⟩
  rw [h.query]
  exact writtenQuery_late hsorted hne hwritten

/-- A verifier that takes the late parameters away is left with what was signed. -/
theorem Sent.querySignature?_eq {canonical : CanonicalRequest} (h : Sent c s sorted made request)
    (hcanonical : CanonicalRequest.of c s = .ok canonical) (hhost : s.headers.has .host = true)
    (hsorted : canonicalQuery sorted = s.query) (hperm : sorted.Perm (incoming ++ added))
    (hadded : Announces c s.headers added) (hpairs : ∀ pair ∈ incoming, pair ≠ ("", ""))
    (hnames : ∀ pair ∈ incoming, pair.1 ∉ presignNames) :
    c.verifier.querySignature? c.manner.omitToken request
      = some (signature c (working c canonical).stringToSign) := by
  have hfilter : request.uri.parameters.filter (!isLate c.manner.omitToken ·) = sorted := by
    rw [h.parameters (ne_empty_of_mem_signed hperm hadded hpairs)]
    exact filter_isLate (isLate_of_mem_signed hperm hadded hnames)
  have hread : c.verifier.signature? c.date.stampText c.date.dateText request sorted
      (listedNames (signedNamesText s.headers).toList)
        = some (signature c (working c canonical).stringToSign) := by
    rw [listedNames_signedNamesText (signedNames_ne_nil hhost)]
    refine signature?_eq hcanonical ⟨h.method, h.path, hsorted, fun name _ => ?_⟩
    rw [Untouched, h.headers]
  -- none of the names that are looked for came with the request
  have hother : ∀ name ∈ presignNames, ∀ pair ∈ incoming, pair.1 ≠ name := by
    rintro name hname pair hpair rfl
    exact hnames pair hpair hname
  have hsole : ∀ {name value}, name ∈ presignNames →
      added.filter (·.1 = name) = [(name, value)] → soleParameter? sorted name = some value :=
    fun hname => soleParameter?_of_perm hperm (hother _ hname)
  simp only [Verifier.querySignature?, hfilter, hsole (by decide) hadded.names,
    hsole (by decide) hadded.date, hsole (by decide) hadded.credential,
    credentialDate?_credentialScope, hread, Option.bind_eq_bind, Option.bind_some]

/-! ### The signature -/

/-- **A URL that was signed verifies.**  Behind the signature there is nothing but a late token,
and the verifier finds the signature again. -/
theorem querySignature?_of_sign {d : Draft} {now : Instant} (hbuild : d.build now = .ok c)
    (hplacement : c.manner.placement = .query)
    (hpairs : ∀ pair ∈ bench.request.uri.parameters, pair ≠ ("", ""))
    (hnames : ∀ pair ∈ bench.request.uri.parameters, pair.1 ∉ presignNames)
    (h : (sign c).outcome bench = (.ok made, bench')) :
    (∃ front, bench'.request.uri.query
        = some (front ++ "&X-Amz-Signature=" ++ made ++ lateText c)) ∧
      c.verifier.querySignature? c.manner.omitToken bench'.request = some made := by
  obtain ⟨-, s, canonical, request, hform, rfl, hdeliver, rfl⟩ := sign_eq_ok_iff.mp h
  obtain ⟨hprepared, hcanonical⟩ := prepared_of_canonicalize hform
  obtain ⟨parts, -, hfields⟩ := hprepared.headers
  obtain ⟨hhost, -, -⟩ := canonicalHeaders_spec hfields
  obtain ⟨validFor, hvalid⟩ := validFor_of_build hbuild hplacement
  have hadded : Announces c s.headers (addedParameters c s.headers) :=
    announces_addedParameters hplacement hvalid s.headers
  obtain ⟨sorted, hperm, hquery, hsorted⟩ := hprepared.exists_sorted
  have hwritten := encodePart_signature c (working c canonical).stringToSign
  have hsent := sent_of_deliver hplacement hprepared.isTarget_path hquery hwritten hdeliver
  constructor
  · exact hsent.exists_front (ne_nil_of_announces hperm hadded) signature_ne_empty hwritten
  · exact hsent.querySignature?_eq hcanonical hhost hsorted hperm hadded hpairs hnames

/-- A URL for one object that is good for an hour; the token is added late. -/
def sharedObject : Draft where
  region := "eu-west-1"
  service := "s3"
  credential := some
    { accessKeyId := "AKIDEXAMPLE", secretAccessKey := "secret", sessionToken := "to/ken" }
  payload := some .unsigned
  manner :=
    { placement := .query, encodeTwice := false, omitToken := true
      validFor := some (.ofMinutes 60) }

def sharedObjectRequest : Request where
  method := .get
  uri := ⟨some "https", some "bucket.s3.amazonaws.com", some ⟨"/a%20b", "v=1&x=", by decide⟩⟩
  headers := []

theorem exists_build_sharedObject : ∃ c, sharedObject.build (.ofSecond 0) = .ok c ∧
    c.manner.placement = .query ∧ CanSign c sharedObjectRequest := by
  refine ⟨_, rfl, rfl, ?_⟩
  exact {
    algorithm := rfl
    star := by decide
    path := ⟨_, rfl⟩
    fields := ⟨_, _, rfl, rfl, by decide⟩
    scope := fun h => by cases h
    token := fun h => by cases h }

theorem querySignature?_of_sign_sharedObject :
    ∃ c made bench', sharedObject.build (.ofSecond 0) = .ok c ∧
      (sign c).outcome ⟨sharedObjectRequest, none⟩ = (.ok made, bench') ∧
      (∃ front, bench'.request.uri.query
        = some (front ++ "&X-Amz-Signature=" ++ made ++ lateText c)) ∧
      c.verifier.querySignature? c.manner.omitToken bench'.request = some made := by
  obtain ⟨c, hbuild, hplacement, hsign⟩ := exists_build_sharedObject
  obtain ⟨made, bench', h⟩ : ∃ made bench',
      (sign c).outcome ⟨sharedObjectRequest, none⟩ = (.ok made, bench') := exists_sign_ok hsign
  exact ⟨c, made, bench', hbuild, h,
    querySignature?_of_sign hbuild hplacement (by decide +kernel) (by decide +kernel) h⟩

end AwsSigning.Signing
