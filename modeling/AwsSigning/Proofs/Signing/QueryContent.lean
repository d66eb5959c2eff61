/-
AwsSigning/Proofs/Signing/QueryContent.lean

What the query of a signed request says.

A query is a list of names and values that are bytes.  Signing reads them as
texts, encodes the texts and sorts them, and may add parameters of its own; so
the query that is sent spells the texts that were read and the parameters that
were added, in some order (`exists_writtenQuery_of_sign`):

    sent   ~   texts of the request  ++  parameters of the signer

Bytes that spell a text are sent as they were.  What is no text in a name or
a value has been replaced by U+FFFD when it was read, and is sent that way
(`mend`).  Nothing is said about a pair of two empty texts, which is lost
where it is written.
-/
import AwsSigning.Proofs.Signing.HeaderSignature

namespace AwsSigning

/-! ### Pairs of bytes -/

/-- The bytes are well-formed UTF-8. -/
def Utf8.IsText (bytes : Bytes) : Prop := ∃ text, bytes = Utf8.ofString text

/-- The bytes with everything in them that is no text replaced by U+FFFD. -/
def Utf8.mend (bytes : Bytes) : Bytes := Utf8.ofString (Utf8.toStringLossy bytes)

/-- A text needs no mending. -/
theorem Utf8.mend_of_isText {bytes : Bytes} (h : IsText bytes) : mend bytes = bytes := by
  obtain ⟨text, rfl⟩ := h
  rw [mend, toStringLossy_ofString]

namespace Query

/-- A pair with its name and its value mended. -/
def mend (pair : Bytes × Bytes) : Bytes × Bytes := (Utf8.mend pair.1, Utf8.mend pair.2)

/-- There is a name or a value. -/
def hasBytes (pair : Bytes × Bytes) : Bool := pair ≠ ([], [])

theorem toBytes_append (query more : Query) :
    toBytes (query ++ more) = toBytes query ++ toBytes more :=
  List.map_append

/-- Pairs of two empty texts are pairs without bytes. -/
theorem toBytes_filter (query : Query) :
    toBytes (query.filter (· ≠ ("", ""))) = (toBytes query).filter hasBytes := by
  have hbytes : ∀ pair : String × String, decide (pair ≠ ("", ""))
      = hasBytes (Utf8.ofString pair.1, Utf8.ofString pair.2) := by
    rintro ⟨name, value⟩
    simp [hasBytes, ofString_eq_nil_iff]
  rw [toBytes, toBytes, List.filter_map]
  exact congrArg _ (List.filter_congr fun pair _ => hbytes pair)

end Query

namespace Uri

/-- The names and values in the query of a URI, as bytes. -/
def pairs (u : Uri) : List (Bytes × Bytes) :=
  (u.query.map fun query => Query.decodeBytes (Utf8.ofString query)).getD []

/-- Reading the pairs as texts is what mends them. -/
theorem toBytes_parameters (u : Uri) : u.parameters.toBytes = u.pairs.map Query.mend := by
  rw [parameters, pairs]
  rcases u.query with - | query
  · rfl
  · simp [Query.decode, Query.toBytes, Query.mend, Utf8.mend, Function.comp_def]

/-- Of a written query the pairs are those with a name or a value. -/
theorem pairs_of_writtenQuery {u : Uri} {q : Query}
    (h : u.query = Signing.Signable.writtenQuery q) :
    u.pairs = q.toBytes.filter Query.hasBytes := by
  rw [pairs, h, Signing.Signable.writtenQuery]
  split
  · next hnil =>
    subst hnil
    rfl
  · rw [← Query.toBytes_filter, ← Query.decodeBytes_render_encode]
    rfl

end Uri

namespace Signing

variable {c : Config} {bench bench' : Bench} {made : String}

/-! ### What is written -/

/-- The parameters that a signer adds to a query: those that are signed, and the late ones. -/
def signerParameters (c : Config) (headers : Headers) (made : String) : Query :=
  match c.manner.placement with
  | .header => []
  | .query => addedParameters c headers ++ lateParameters c made

/-- The names under which a signer adds something. -/
def signerNames : List String :=
  ["X-Amz-Algorithm", "X-Amz-Credential", "X-Amz-Date", "X-Amz-Expires", "X-Amz-SignedHeaders",
   "X-Amz-Security-Token", "X-Amz-Signature"]

theorem name_mem_signerNames {headers : Headers} :
    ∀ pair ∈ signerParameters c headers made, pair.1 ∈ signerNames := by
  have htoken : ∀ {token? : Option String}, ∀ pair ∈
      (token?.map fun token => ("X-Amz-Security-Token", token)).toList, pair.1 ∈ signerNames := by
    intro token? pair hpair
    rcases token? with - | token
    · cases hpair
    · rw [List.mem_singleton.mp hpair]
      simp [signerNames]
  have hadded : ∀ pair ∈ addedParameters c headers, pair.1 ∈ signerNames := by
    unfold addedParameters signatureParameters
    split
    · refine List.forall_mem_append.mpr ⟨by simp [signerNames], ?_⟩
      split
      · simp
      · exact htoken
    · simp
  unfold signerParameters lateParameters
  split
  · simp
  · exact List.forall_mem_append.mpr
      ⟨hadded, List.forall_mem_cons.mpr ⟨by simp [signerNames], htoken⟩⟩

/-- So none of them is lost. -/
theorem filter_signerParameters (c : Config) (headers : Headers) (made : String) :
    (signerParameters c headers made).filter (· ≠ ("", "")) = signerParameters c headers made := by
  apply List.filter_eq_self.mpr
  intro pair hpair
  have hname := name_mem_signerNames pair hpair
  rw [decide_eq_true_eq]
  rintro rfl
  revert hname
  decide

/-- The parts that the URI of a signed request was made of, and what their query spells. -/
structure MadeOf (c : Config) (request request' : Request) (made : String) (s : Signable)
    (q : Query) : Prop where
  uri : s.uri = .ok request'.uri
  scheme : s.scheme = request.uri.scheme.getD "http"
  authority : request.uri.authority = some s.authority
  path : s.path = request.uri.path
  query : s.query = q.encode
  parameters : q.Perm (request.uri.parameters ++ signerParameters c request'.headers made)

/-- **What is sent of a request that was signed.** -/
theorem exists_madeOf_of_sign (h : (sign c).outcome bench = (.ok made, bench')) :
    ∃ s q, MadeOf c bench.request bench'.request made s q := by
  obtain ⟨-, s, canonical, request, hform, rfl, hdeliver, rfl⟩ := sign_eq_ok_iff.mp h
  obtain ⟨hprepared, -⟩ := prepared_of_canonicalize hform
  obtain ⟨hauthority, hscheme⟩ := server_of_canonicalize hform
  obtain ⟨sorted, hperm, hquery, -⟩ := hprepared.exists_sorted
  have hpath := hprepared.path
  dsimp only
  rcases hplacement : c.manner.placement with - | -
  · obtain ⟨headers, uri, hheaders, huri, rfl⟩ := (deliver_header_iff hplacement).mp hdeliver
    refine ⟨{ s with headers }, sorted, huri, hscheme, hauthority, hpath, hquery, ?_⟩
    simpa only [signerParameters, hplacement, addedParameters_of_header hplacement] using hperm
  · -- what is added behind the encoded query is the encoding of the late parameters
    have hsent : s.query ++ signedParameters c (signature c (working c canonical).stringToSign)
        = Query.encode (sorted ++ lateParameters c
            (signature c (working c canonical).stringToSign)) := by
      rw [Query.encode_append, encode_lateParameters (encodePart_signature c _), hquery]
    obtain ⟨uri, huri, rfl⟩ := (deliver_query_iff hplacement).mp hdeliver
    refine ⟨{ s with query := s.query ++ _ }, _, huri, hscheme, hauthority, hpath, hsent, ?_⟩
    simp only [signerParameters, hplacement, ← List.append_assoc]
    exact hperm.append_right _

/-- A path that came with a request can be sent. -/
theorem MadeOf.target {request request' : Request} {s : Signable} {q : Query}
    (h : MadeOf c request request' made s q) :
    request'.uri.path = request.uri.path ∧ request'.uri.query = Signable.writtenQuery q := by
  have hpath : isTarget s.path none = true := by
    rw [h.path]
    exact request.uri.isTarget_path
  rw [← h.path]
  exact Signable.target_of_uri hpath h.query h.uri

/-- **The query that is sent spells the texts that were read and the parameters of the signer.** -/
theorem exists_writtenQuery_of_sign (h : (sign c).outcome bench = (.ok made, bench')) :
    ∃ q : Query, bench'.request.uri.query = Signable.writtenQuery q ∧
      q.Perm (bench.request.uri.parameters
        ++ signerParameters c bench'.request.headers made) := by
  obtain ⟨s, q, hmade⟩ := exists_madeOf_of_sign h
  exact ⟨q, hmade.target.2, hmade.parameters⟩

/-- **Signing does not change what the query says.**  Pairs with a name or a value are sent as they
were, but mended, and next to them there are the parameters of the signer. -/
theorem pairs_of_sign (h : (sign c).outcome bench = (.ok made, bench')) :
    (bench'.request.uri.pairs.filter Query.hasBytes).Perm
      ((bench.request.uri.pairs.map Query.mend).filter Query.hasBytes
        ++ (signerParameters c bench'.request.headers made).toBytes) ∧
    ((∀ pair ∈ bench.request.uri.pairs, Utf8.IsText pair.1 ∧ Utf8.IsText pair.2) →
      (bench'.request.uri.pairs.filter Query.hasBytes).Perm
        (bench.request.uri.pairs.filter Query.hasBytes
          ++ (signerParameters c bench'.request.headers made).toBytes)) := by
  obtain ⟨q, hquery, hperm⟩ := exists_writtenQuery_of_sign h
  have hsent : (bench'.request.uri.pairs.filter Query.hasBytes).Perm
      ((bench.request.uri.pairs.map Query.mend).filter Query.hasBytes
        ++ (signerParameters c bench'.request.headers made).toBytes) := by
    -- writing loses the pairs of two empty texts, and none of them is the signer's
    have hkept : (q.toBytes.filter Query.hasBytes).Perm
        (Query.toBytes (bench.request.uri.parameters
          ++ signerParameters c bench'.request.headers made) |>.filter Query.hasBytes) :=
      (hperm.map _).filter _
    rw [Query.toBytes_append, List.filter_append, Uri.toBytes_parameters,
      ← Query.toBytes_filter (signerParameters _ _ _), filter_signerParameters] at hkept
    rw [Uri.pairs_of_writtenQuery hquery, List.filter_filter]
    simpa only [Bool.and_self] using hkept
  refine ⟨hsent, fun htexts => ?_⟩
  have hmend : bench.request.uri.pairs.map Query.mend = bench.request.uri.pairs := by
    refine (List.map_congr_left fun pair hpair => ?_).trans (List.map_id _)
    obtain ⟨hname, hvalue⟩ := htexts pair hpair
    exact Prod.ext (Utf8.mend_of_isText hname) (Utf8.mend_of_isText hvalue)
  rwa [hmend] at hsent

/-- A link to a bucket, which is good for an hour. -/
def linking : Config :=
  { listing with
    manner := { placement := .query, encodeTwice := false, validFor := some (.ofMinutes 60) } }

/-- A request with repeated names, an empty value, and a letter outside of ASCII. -/
def accentedRequest : Request where
  method := .get
  uri := ⟨some "https", some "bucket.s3.amazonaws.com",
    some ⟨"/", "b=2&a=caf%C3%A9+x&b=&b=2", by decide⟩⟩
  headers := []

theorem canSign_linking : CanSign linking accentedRequest where
  algorithm := rfl
  star := by decide
  path := ⟨_, rfl⟩
  fields := ⟨_, _, rfl, rfl, by decide⟩
  scope h := by cases h
  token h := by cases h

theorem pairs_of_sign_accented :
    ∃ made bench', (sign linking).outcome ⟨accentedRequest, none⟩ = (.ok made, bench') ∧
      (bench'.request.uri.pairs.filter Query.hasBytes).Perm
        (accentedRequest.uri.pairs.filter Query.hasBytes
          ++ (signerParameters linking bench'.request.headers made).toBytes) := by
  obtain ⟨made, bench', h⟩ : ∃ made bench',
      (sign linking).outcome ⟨accentedRequest, none⟩ = (.ok made, bench') :=
    exists_sign_ok canSign_linking
  have hpairs : accentedRequest.uri.pairs
      = Query.toBytes [("b", "2"), ("a", "caf\u00E9 x"), ("b", ""), ("b", "2")] := by
    decide +kernel
  have htexts : ∀ pair ∈ accentedRequest.uri.pairs, Utf8.IsText pair.1 ∧ Utf8.IsText pair.2 := by
    intro pair hpair
    rw [hpairs] at hpair
    obtain ⟨⟨name, value⟩, -, rfl⟩ := List.mem_map.mp hpair
    exact ⟨⟨name, rfl⟩, ⟨value, rfl⟩⟩
  exact ⟨made, bench', h, (pairs_of_sign h).2 htexts⟩

/-! ### What is not sent as it was -/

/-- With a signature in a field, the pairs that are sent are the texts that were read. -/
theorem mem_pairs_iff {pair : Bytes × Bytes} (hplacement : c.manner.placement = .header)
    (h : (sign c).outcome bench = (.ok made, bench')) :
    pair ∈ bench'.request.uri.pairs ↔
      pair ∈ bench.request.uri.parameters.toBytes ∧ Query.hasBytes pair = true := by
  obtain ⟨q, hquery, hperm⟩ := exists_writtenQuery_of_sign h
  rw [signerParameters, hplacement, List.append_nil] at hperm
  have hbytes : q.toBytes.Perm bench.request.uri.parameters.toBytes := hperm.map _
  rw [Uri.pairs_of_writtenQuery hquery, List.mem_filter, hbytes.mem_iff]

/-- Whether a request can be signed does not depend on its query. -/
theorem CanSign.withTarget {request : Request} (h : CanSign c request) (target : Target)
    (hpath : target.path = request.uri.path) :
    CanSign c { request with uri := { request.uri with target := some target } } where
  algorithm := h.algorithm
  star := fun hstar => h.star (hpath.symm.trans hstar)
  path := by
    obtain ⟨path, hcanonical⟩ := h.path
    exact ⟨path, (congrArg _ hpath).trans hcanonical⟩
  fields := by
    obtain ⟨parts, headers, hparts, hheaders, hreadable⟩ := h.fields
    rw [Signable.ofUri] at hparts
    split at hparts
    · cases hparts
    · next authority hauthority =>
      cases hparts
      refine ⟨⟨request.method, request.uri.scheme.getD "http", authority, target.path,
        (target.query.map Query.decode).getD [], request.headers⟩, headers, ?_, hheaders, hreadable⟩
      simp [Signable.ofUri, hauthority]
  scope := h.scope
  token := h.token

/-- A request with a value that is no text. -/
def brokenRequest : Request :=
  { listingRequest with
    uri := { listingRequest.uri with target := some ⟨"/a%20b", "a=%FF&b=1", by decide⟩ } }

/-- A request with a pair of two empty texts. -/
def hollowRequest : Request :=
  { listingRequest with
    uri := { listingRequest.uri with target := some ⟨"/a%20b", "=&b=1", by decide⟩ } }

/-- Not every pair of bytes is sent as it was: not one that is no text, and not one without any. -/
theorem exists_not_perm_pairs :
    (∃ made bench', (sign listing).outcome ⟨brokenRequest, none⟩ = (.ok made, bench') ∧
      ¬bench'.request.uri.pairs.Perm (brokenRequest.uri.pairs
        ++ (signerParameters listing bench'.request.headers made).toBytes)) ∧
    ∃ made bench', (sign listing).outcome ⟨hollowRequest, none⟩ = (.ok made, bench') ∧
      ¬bench'.request.uri.pairs.Perm (hollowRequest.uri.pairs
        ++ (signerParameters listing bench'.request.headers made).toBytes) := by
  constructor
  · obtain ⟨made, bench', h⟩ : ∃ made bench',
        (sign listing).outcome ⟨brokenRequest, none⟩ = (.ok made, bench') :=
      exists_sign_ok (canSign_listing.withTarget _ rfl)
    refine ⟨made, bench', h, fun hperm => ?_⟩
    have hsent : ([0x61], [0xFF]) ∈ bench'.request.uri.pairs :=
      hperm.mem_iff.mpr (List.mem_append_left _ (by decide +kernel))
    have hread := ((mem_pairs_iff rfl h).mp hsent).1
    revert hread
    decide +kernel
  · obtain ⟨made, bench', h⟩ : ∃ made bench',
        (sign listing).outcome ⟨hollowRequest, none⟩ = (.ok made, bench') :=
      exists_sign_ok (canSign_listing.withTarget _ rfl)
    refine ⟨made, bench', h, fun hperm => ?_⟩
    have hsent : ([], []) ∈ bench'.request.uri.pairs :=
      hperm.mem_iff.mpr (List.mem_append_left _ (by decide +kernel))
    have hbytes := ((mem_pairs_iff rfl h).mp hsent).2
    cases hbytes

end Signing

end AwsSigning
