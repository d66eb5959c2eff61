/-
AwsSigning/Proofs/Signing/Outcome.lean

What signing in place comes to.

The procedure moves the URI and the header fields out of a request, works on
them, and moves them in again; at every point in between the request is in
pieces.  Its outcome, though, can be written without any of these states
(`outcome_sign`):

    canonicalize c request   the parts in canonical form, and the form
    deliver c request ..     the request with a signature, or why there is none

If either fails, the request is what it was.  The URI and the header fields
are put back by the procedure; that the method is the old one too is a
property of the steps in between, none of which looks at it
(`method_of_prepare`, `method_of_attach`).
-/
import AwsSigning.Proofs.Operation
import AwsSigning.Proofs.Signing.Wire
import AwsSigning.Proofs.Steps
import AwsSigning.Signing.Signer

namespace AwsSigning.Signing

variable {c : Config} {s s' : Signable} {request : Request}

/-! ### Signing without a place to work in -/

/-- The parts of a request in canonical form, and the form they make. -/
def canonicalize (c : Config) (request : Request) : Except Error (Signable × CanonicalRequest) := do
  let parts ← Signable.ofUri request.uri request.method request.headers
  let prepared ← prepare c parts
  let canonical ← CanonicalRequest.of c prepared
  pure (prepared, canonical)

/-- A request with a signature that was made for its parts. -/
def deliver (c : Config) (request : Request) (prepared : Signable) (signature : String) :
    Except Error Request := do
  let sent ← attach c prepared signature
  let uri ← sent.uri
  pure { request with method := sent.method, uri, headers := sent.headers }

/-- What signing comes to. -/
def signed (c : Config) (bench : Bench) : Except Error String × Bench :=
  match c.manner.algorithm with
  | .asymmetric => (.error (.signing .asymmetric), bench)
  | .shared =>
    match canonicalize c bench.request with
    | .error e => (.error e, bench)
    | .ok (prepared, canonical) =>
      let bench := { bench with working := some (working c canonical) }
      let signature := signature c (working c canonical).stringToSign
      match deliver c bench.request prepared signature with
      | .error e => (.error e, bench)
      | .ok request => (.ok signature, { bench with request })

/-! ### The method -/

theorem method_of_ofUri {uri : Uri} {method : Method} {headers : Headers}
    (h : Signable.ofUri uri method headers = .ok s) : s.method = method := by
  unfold Signable.ofUri at h
  split at h
  · cases h
  · cases h
    rfl

theorem path_of_ofUri {uri : Uri} {method : Method} {headers : Headers}
    (h : Signable.ofUri uri method headers = .ok s) : s.path = uri.path := by
  unfold Signable.ofUri at h
  split at h
  · cases h
  · cases h
    rfl

/-- The parts name the server that the URI names. -/
theorem server_of_ofUri {uri : Uri} {method : Method} {headers : Headers}
    (h : Signable.ofUri uri method headers = .ok s) :
    uri.authority = some s.authority ∧ s.scheme = uri.scheme.getD "http" := by
  unfold Signable.ofUri at h
  split at h
  · cases h
  · next authority hauthority =>
    cases h
    exact ⟨hauthority, rfl⟩

theorem server_of_prepare (h : prepare c s = .ok s') :
    s'.authority = s.authority ∧ s'.scheme = s.scheme := by
  obtain ⟨headers, -, h⟩ := bind_eq_ok_iff.mp h
  cases h
  exact ⟨rfl, rfl⟩

theorem method_of_prepare (h : prepare c s = .ok s') : s'.method = s.method := by
  obtain ⟨headers, -, h⟩ := bind_eq_ok_iff.mp h
  cases h
  rfl

theorem method_of_attach {signature : String} (h : attach c s signature = .ok s') :
    s'.method = s.method := by
  unfold attach at h
  split at h
  · cases h
    rfl
  · obtain ⟨headers, -, h⟩ := bind_eq_ok_iff.mp h
    cases h
    rfl

/-- The parts in canonical form keep the method of the request. -/
theorem method_of_canonicalize {canonical : CanonicalRequest}
    (h : canonicalize c request = .ok (s, canonical)) : s.method = request.method := by
  obtain ⟨parts, hparts, h⟩ := bind_eq_ok_iff.mp h
  obtain ⟨prepared, hprepared, h⟩ := bind_eq_ok_iff.mp h
  obtain ⟨canonical', -, h⟩ := bind_eq_ok_iff.mp h
  cases h
  rw [method_of_prepare hprepared, method_of_ofUri hparts]

/-- They name the server of the request as well. -/
theorem server_of_canonicalize {canonical : CanonicalRequest}
    (h : canonicalize c request = .ok (s, canonical)) :
    request.uri.authority = some s.authority ∧ s.scheme = request.uri.scheme.getD "http" := by
  obtain ⟨parts, hparts, h⟩ := bind_eq_ok_iff.mp h
  obtain ⟨prepared, hprepared, h⟩ := bind_eq_ok_iff.mp h
  obtain ⟨canonical', -, h⟩ := bind_eq_ok_iff.mp h
  cases h
  rw [(server_of_prepare hprepared).1, (server_of_prepare hprepared).2]
  exact server_of_ofUri hparts

/-! ### The two halves of the procedure -/

/-- Taking a request apart leaves it without its URI; its header fields go only if it names a
server. -/
theorem outcome_take (request : Request) :
    Signable.take.outcome request =
      match Signable.ofUri request.uri request.method request.headers with
      | .ok parts => (.ok parts, { request with uri := .root, headers := [] })
      | .error e => (.error e, { request with uri := .root }) := by
  unfold Signable.take
  simp only [Operation.outcome_bind, Operation.outcome_get, Operation.outcome_set,
    Operation.outcome_ofExcept]
  rcases Signable.ofUri request.uri request.method request.headers with e | parts <;> rfl

/-- Putting a request together replaces its header fields and its method before the URI can be
refused. -/
theorem outcome_putBack (s : Signable) (request : Request) :
    s.putBack.outcome request =
      match s.uri with
      | .ok uri => (.ok (), { request with uri, headers := s.headers, method := s.method })
      | .error e =>
        (.error e, { request with uri := .root, headers := s.headers, method := s.method }) := by
  unfold Signable.putBack
  simp only [Operation.outcome_bind, Operation.outcome_modify, Operation.outcome_ofExcept]
  rcases s.uri with e | uri <;> rfl

/-- Signing the parts of a request that have been moved out, before anything is put back. -/
theorem outcome_signParts (c : Config) (parts : Signable) (bench : Bench) :
    (signParts c parts).outcome bench =
      match prepare c parts with
      | .error e => (.error e, bench)
      | .ok prepared =>
        match CanonicalRequest.of c prepared with
        | .error e => (.error e, bench)
        | .ok canonical =>
          let working := working c canonical
          let signature := signature c working.stringToSign
          match attach c prepared signature with
          | .error e => (.error e, { bench with working := some working })
          | .ok sent =>
            let (result, request) := sent.putBack.outcome bench.request
            (result.map fun _ => signature, ⟨request, some working⟩) := by
  unfold signParts
  simp only [Operation.outcome_bind, Operation.outcome_modify, Operation.outcome_ofExcept,
    Operation.outcome_pure, Bench.onRequest, Operation.outcome_focus]
  rcases prepare c parts with e | prepared
  · rfl
  dsimp only
  rcases CanonicalRequest.of c prepared with e | canonical
  · rfl
  dsimp only
  rcases attach c prepared (signature c (working c canonical).stringToSign) with e | sent
  · rfl
  dsimp only
  rcases sent.putBack.outcome bench.request with ⟨e | -, request⟩ <;> rfl

/-- **Signing in place comes to `signed`.** -/
theorem outcome_sign (c : Config) (bench : Bench) : (sign c).outcome bench = signed c bench := by
  obtain ⟨request, worked⟩ := bench
  unfold sign signed
  rcases c.manner.algorithm with - | -
  · -- where the form cannot be made, the bench is mended from what it was
    simp only [Operation.outcome_restoring, Operation.outcome_bind, Bench.onRequest,
      Operation.outcome_focus, outcome_take]
    rcases hparts : Signable.ofUri request.uri request.method request.headers with e | parts
    · simp [canonicalize, hparts, bind, Except.bind, Bench.restore]
    dsimp only
    rw [outcome_signParts]
    rcases hprepared : prepare c parts with e | prepared
    · simp [canonicalize, hparts, hprepared, bind, Except.bind, Bench.restore]
    dsimp only
    rcases hcanonical : CanonicalRequest.of c prepared with e | canonical
    · simp [canonicalize, hparts, hprepared, hcanonical, bind, Except.bind, Bench.restore]
    have hform : canonicalize c request = .ok (prepared, canonical) := by
      simp [canonicalize, hparts, hprepared, hcanonical, bind, Except.bind, pure, Except.pure]
    dsimp only
    rw [hform]
    dsimp only [deliver]
    rcases hsent : attach c prepared (signature c (working c canonical).stringToSign)
      with e | sent
    · simp [bind, Except.bind, Bench.restore]
    · -- the method that is put back is the one that was taken out
      have hmethod : sent.method = request.method :=
        (method_of_attach hsent).trans (method_of_canonicalize hform)
      dsimp only
      rw [outcome_putBack]
      rcases huri : sent.uri with e | uri
      · simp [huri, hmethod, bind, Except.bind, Except.map, Bench.restore]
      · simp [huri, bind, Except.bind, pure, Except.pure, Except.map]
  · rfl

/-! ### What success means -/

/-- A signing that succeeds makes a canonical form, signs it, and sends the signature. -/
theorem sign_eq_ok_iff {bench bench' : Bench} {made : String} :
    (sign c).outcome bench = (.ok made, bench') ↔
      c.manner.algorithm = .shared ∧ ∃ prepared canonical request,
        canonicalize c bench.request = .ok (prepared, canonical) ∧
          made = signature c (working c canonical).stringToSign ∧
          deliver c bench.request prepared made = .ok request ∧
          bench' = ⟨request, some (working c canonical)⟩ := by
  rw [outcome_sign, signed]
  constructor
  · intro h
    split at h
    · cases h
    · next halgorithm =>
      refine ⟨halgorithm, ?_⟩
      split at h
      · cases h
      · next prepared canonical hform =>
        dsimp only at h
        split at h
        · cases h
        · next request hdeliver =>
          cases h
          exact ⟨prepared, canonical, request, hform, rfl, hdeliver, rfl⟩
  · rintro ⟨halgorithm, prepared, canonical, request, hform, rfl, hdeliver, rfl⟩
    simp only [halgorithm, hform, hdeliver]

/-! ### What failure means -/

/-- **A signing that failed leaves the request as it was**, however far it got. -/
theorem request_of_sign_error {bench bench' : Bench} {e : Error}
    (h : (sign c).outcome bench = (.error e, bench')) : bench'.request = bench.request := by
  rw [outcome_sign, signed] at h
  split at h
  · cases h
    rfl
  · split at h
    · cases h
      rfl
    · -- the form is made, so only the delivery can have failed
      dsimp only at h
      split at h
      · cases h
        rfl
      · cases h

/-- A request for all that is in a bucket. -/
def bucketRequest : Request where
  method := .get
  uri := ⟨some "https", some "bucket.s3.amazonaws.com", some .root⟩
  headers := []

/-- What is signed in place of the payload is to be sent in a field, which it cannot be.  The
request has been taken apart when this is found out. -/
def unsendable : Config where
  region := "us-east-1"
  service := "s3"
  credential := { accessKeyId := "AKIDEXAMPLE", secretAccessKey := "secret" }
  date := .ofSecond 1440938160
  payload := .precomputed "two\nlines"
  manner := { payloadHeader := .contentSha256 }

theorem request_of_sign_error_unsendable :
    ∃ e bench', (sign unsendable).outcome ⟨bucketRequest, none⟩ = (.error e, bench') ∧
      bench'.request = bucketRequest :=
  ⟨_, _, rfl, @request_of_sign_error unsendable ⟨bucketRequest, none⟩ _ _ rfl⟩

/-! ### The parts in canonical form -/

/-- How the parts in canonical form relate to the request they were taken from. -/
structure Prepared (c : Config) (request : Request) (s : Signable) : Prop where
  path : s.path = request.uri.path
  headers : ∃ parts : Signable, parts.headers = request.headers.remove .authorization ∧
    canonicalHeaders c parts = .ok s.headers
  query : s.query = canonicalQuery (request.uri.parameters ++ addedParameters c s.headers)

theorem prepared_of_canonicalize {canonical : CanonicalRequest}
    (h : canonicalize c request = .ok (s, canonical)) :
    Prepared c request s ∧ CanonicalRequest.of c s = .ok canonical := by
  obtain ⟨parts, hparts, h⟩ := bind_eq_ok_iff.mp h
  obtain ⟨prepared, hprepared, h⟩ := bind_eq_ok_iff.mp h
  obtain ⟨canonical', hcanonical, h⟩ := bind_eq_ok_iff.mp h
  cases h
  obtain ⟨headers, hheaders, hprepared⟩ := bind_eq_ok_iff.mp hprepared
  cases hprepared
  unfold Signable.ofUri at hparts
  split at hparts
  · cases hparts
  · cases hparts
    exact ⟨⟨rfl, ⟨_, rfl, hheaders⟩, rfl⟩, hcanonical⟩

/-- The path is one that can be sent, as it came with a request. -/
theorem Prepared.isTarget_path (h : Prepared c request s) : isTarget s.path none = true := by
  rw [h.path]
  exact request.uri.isTarget_path

/-! ### Where the signature went -/

/-- A signature that is sent in a field changes nothing but the fields. -/
theorem deliver_header_iff {signature : String} {request' : Request}
    (hplacement : c.manner.placement = .header) :
    deliver c request s signature = .ok request' ↔
      ∃ headers uri, signHeaders c s.headers signature = .ok headers ∧
        Signable.uri { s with headers } = .ok uri ∧
          request' = { request with method := s.method, uri, headers } := by
  simp only [deliver, attach, hplacement, bind_eq_ok_iff, pure_eq_ok_iff]
  constructor
  · rintro ⟨_, ⟨headers, hheaders, rfl⟩, uri, huri, rfl⟩
    exact ⟨headers, uri, hheaders, huri, rfl⟩
  · rintro ⟨headers, uri, hheaders, huri, rfl⟩
    exact ⟨_, ⟨headers, hheaders, rfl⟩, uri, huri, rfl⟩

/-- The fields of a request that is signed in a field: without an authorization that came with it,
they are completed, and then the signature is shown. -/
theorem exists_fields_of_sign {bench bench' : Bench} {made : String}
    (hplacement : c.manner.placement = .header)
    (h : (sign c).outcome bench = (.ok made, bench')) :
    ∃ (parts : Signable) (headers : Headers) (text : String),
      parts.headers = bench.request.headers.remove .authorization ∧
        canonicalHeaders c parts = .ok headers ∧
        made = signature c text ∧
        signHeaders c headers made = .ok bench'.request.headers := by
  obtain ⟨-, s, canonical, request, hform, hmade, hdeliver, rfl⟩ := sign_eq_ok_iff.mp h
  obtain ⟨headers, uri, hheaders, -, rfl⟩ := (deliver_header_iff hplacement).mp hdeliver
  obtain ⟨parts, hparts, hfields⟩ := (prepared_of_canonicalize hform).1.headers
  exact ⟨parts, s.headers, _, hparts, hfields, hmade, hheaders⟩

/-- A signature that is sent in the query changes nothing but the query. -/
theorem deliver_query_iff {signature : String} {request' : Request}
    (hplacement : c.manner.placement = .query) :
    deliver c request s signature = .ok request' ↔
      ∃ uri, Signable.uri { s with query := s.query ++ signedParameters c signature } = .ok uri ∧
        request' = { request with method := s.method, uri, headers := s.headers } := by
  simp only [deliver, attach, hplacement, bind_eq_ok_iff, pure_eq_ok_iff]
  constructor
  · rintro ⟨_, hsent, uri, huri, rfl⟩
    cases hsent
    exact ⟨uri, huri, rfl⟩
  · rintro ⟨uri, huri, rfl⟩
    exact ⟨_, rfl, uri, huri, rfl⟩

end AwsSigning.Signing
