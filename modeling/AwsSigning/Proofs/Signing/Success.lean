/-
AwsSigning/Proofs/Signing/Success.lean

Nothing else can go wrong.

`CanSign` lists what a signing needs: an algorithm that there is, a server, a
path that can be sent with a query and that spells text where it has to, and
texts that may stand in header fields.  This is enough (`exists_sign_ok`).
What the signer makes up itself, the signature and the list of names, never is
a reason to fail, and neither is the URI.
-/
import AwsSigning.Proofs.Signing.Fields
import AwsSigning.Proofs.Signing.Outcome
import AwsSigning.Proofs.Signing.Parameters
import AwsSigning.Proofs.Text.Blank

namespace AwsSigning

/-! ### Texts that may stand in a header field -/

/-- The text may be the value of a header field. -/
def IsValueText (text : String) : Prop := (Utf8.ofString text).all isValueByte = true

instance : DecidablePred IsValueText :=
  fun text => inferInstanceAs (Decidable ((Utf8.ofString text).all isValueByte = true))

theorem IsValueText.append {s t : String} (hs : IsValueText s) (ht : IsValueText t) :
    IsValueText (s ++ t) := by
  rw [IsValueText, Utf8.ofString_append, List.all_append, hs, ht]
  rfl

theorem IsValueText.exists_ofString {text : String} (h : IsValueText text) :
    ∃ value, HeaderValue.ofString text = .ok value :=
  ⟨_, dif_pos h⟩

/-- A visible character of ASCII. -/
def isVisible (c : Char) : Bool := 0x20 ≤ c.toNat && c.toNat < 0x7F

theorem isVisible_of_isNameChar {c : Char} (h : isNameChar c = true) : isVisible c = true := by
  simp only [isNameChar, isTokenChar, Bool.and_eq_true, Bool.or_eq_true] at h
  rcases h.1 with halnum | hmark
  · have hrange := Text.toNat_of_isAlphanum halnum
    simp only [isVisible, Bool.and_eq_true, decide_eq_true_eq]
    omega
  · have hall : "!#$%&'*+-.^_\x60|~".toList.all isVisible = true := by decide
    exact List.all_eq_true.mp hall c (List.contains_iff_mem.mp hmark)

/-- A text of visible characters may stand in a header field. -/
theorem isValueText_of_isVisible {text : String} (h : ∀ c ∈ text.toList, isVisible c = true) :
    IsValueText text := by
  have hrange : ∀ c ∈ text.toList, 0x20 ≤ c.toNat ∧ c.toNat < 0x7F := by
    intro c hc
    simpa [isVisible] using h c hc
  have hbyte : ∀ n < 0x7F, 0x20 ≤ n → isValueByte (UInt8.ofNat n) = true := by decide
  rw [IsValueText, Utf8.ofString, Utf8.encode_ascii fun c hc => by have := hrange c hc; omega,
    List.all_map, List.all_eq_true]
  intro c hc
  exact hbyte c.toNat (hrange c hc).2 (hrange c hc).1

namespace Signing

variable {c : Config} {s : Signable} {hs : Headers} {made : String}

theorem isValueText_signedNamesText (hs : Headers) : IsValueText (signedNamesText hs) := by
  apply isValueText_of_isVisible
  rw [signedNamesText, String.toList_intercalate, List.map_map]
  apply Text.forall_mem_intercalate (List.all_eq_true.mp (by decide))
  simp only [List.mem_map, forall_exists_index, and_imp, forall_apply_eq_imp_iff₂]
  intro name _ x hx
  exact isVisible_of_isNameChar (List.all_eq_true.mp name.legal x hx)

theorem isValueText_authorizationText (hscope : IsValueText c.credentialScope)
    (hmade : ∀ x ∈ made.toList, isVisible x = true) :
    IsValueText (authorizationText c hs made) := by
  have halgorithm : IsValueText (algorithmName ++ " Credential=") := by decide
  have hnames : IsValueText ", SignedHeaders=" := by decide
  have hsignature : IsValueText ", Signature=" := by decide
  exact ((((halgorithm.append hscope).append hnames).append
    (isValueText_signedNamesText hs)).append hsignature).append (isValueText_of_isVisible hmade)

/-! ### The canonical request -/

/-- The values of all fields read as text. -/
def Readable (hs : Headers) : Prop := ∀ field ∈ hs, field.2.bytes.all isTextByte = true

instance : DecidablePred Readable :=
  fun hs => inferInstanceAs (Decidable (∀ field ∈ hs, field.2.bytes.all isTextByte = true))

/-- A request with a canonical path and readable fields has a canonical form. -/
theorem exists_of (hpath : ∃ path, canonicalPath c.manner s.path = .ok path)
    (hfields : Readable s.headers) : ∃ canonical, CanonicalRequest.of c s = .ok canonical := by
  obtain ⟨path, hpath⟩ := hpath
  have htext : ∀ name, ∀ value ∈ s.headers.values name,
      ∃ text, CanonicalRequest.valueText name value = .ok text := by
    intro name value hvalue
    obtain ⟨field, hfield, rfl⟩ := List.mem_map.mp hvalue
    have hread := hfields field (List.mem_filter.mp hfield).1
    exact ⟨_, valueText_eq_ok_iff.mpr (if_pos hread)⟩
  have hfield : ∀ name ∈ signedNames s.headers,
      ∃ field, CanonicalRequest.field s.headers name = .ok field := by
    intro name _
    obtain ⟨texts, htexts⟩ := exists_mapM_eq_ok (htext name)
    refine ⟨(name.text, texts), ?_⟩
    rw [CanonicalRequest.field, htexts]
    rfl
  obtain ⟨fields, hfields⟩ := exists_mapM_eq_ok hfield
  refine ⟨⟨s.method.text, path, s.query, fields, c.payload.text⟩, ?_⟩
  rw [CanonicalRequest.of, hpath, hfields]
  rfl

/-- The parts in canonical form, once their fields are. -/
def withFields (c : Config) (parts : Signable) (headers : Headers) : Signable :=
  { parts with headers, query := canonicalQuery (parts.query ++ addedParameters c headers) }

/-- Parts whose fields can be written and read have a canonical form. -/
theorem exists_prepare (parts : Signable)
    (hheaders : canonicalHeaders c { parts with headers := parts.headers.remove .authorization }
      = .ok hs)
    (hreadable : Readable hs) (hpath : ∃ path, canonicalPath c.manner parts.path = .ok path) :
    prepare c parts = .ok (withFields c parts hs) ∧
      ∃ canonical, CanonicalRequest.of c (withFields c parts hs) = .ok canonical := by
  constructor
  · rw [prepare, hheaders]
    rfl
  · exact exists_of (s := withFields c parts hs) hpath hreadable

/-! ### The fields and the URI that are sent -/

theorem exists_signHeaders (hscope : IsValueText c.credentialScope)
    (htoken : ∀ token, lateToken? c = some token → IsValueText token)
    (hmade : ∀ x ∈ made.toList, isVisible x = true) :
    ∃ headers, signHeaders c hs made = .ok headers := by
  have htext : IsValueText (authorizationText c hs made) :=
    isValueText_authorizationText hscope hmade
  obtain ⟨value, hvalue⟩ := htext.exists_ofString
  rw [signHeaders, hvalue]
  show ∃ headers, (if c.manner.omitToken then _ else _) = Except.ok headers
  split
  · next homit =>
    rw [showToken]
    split
    · next token hsome =>
      have hlate : lateToken? c = some token := by rw [lateToken?, if_pos homit, hsome]
      obtain ⟨shown, hshown⟩ := (htoken token hlate).exists_ofString
      rw [setToken, hshown]
      exact ⟨_, rfl⟩
    · exact ⟨_, rfl⟩
  · exact ⟨_, rfl⟩

/-- Encoded parameters behind a path never make a URI that is refused. -/
theorem exists_uri {query : Query} (hpath : isTarget s.path none = true) (hstar : s.path ≠ "*")
    (hquery : s.query = query.encode) : ∃ uri, s.uri = .ok uri := by
  obtain ⟨t, hwire, -⟩ := Signable.exists_target hpath (fun h => absurd h hstar) hquery
  exact ⟨_, Signable.uri_of_render hwire⟩

/-! ### Signing -/

/-- Nothing keeps a request from being signed. -/
structure CanSign (c : Config) (request : Request) : Prop where
  algorithm : c.manner.algorithm = .shared
  star : request.uri.path ≠ "*"
  path : ∃ path, canonicalPath c.manner request.uri.path = .ok path
  /-- There is a server, and the fields that are signed can be written and read. -/
  fields : ∃ parts headers, Signable.ofUri request.uri request.method request.headers = .ok parts ∧
    canonicalHeaders c { parts with headers := parts.headers.remove .authorization } = .ok headers ∧
      Readable headers
  /-- The credential may be shown in a field. -/
  scope : c.manner.placement = .header → IsValueText c.credentialScope
  /-- The token may be shown in a field. -/
  token : c.manner.placement = .header → ∀ token, lateToken? c = some token → IsValueText token

variable {request : Request}

/-- A signature can be delivered with parts whose query is encoded. -/
theorem exists_deliver {query : Query} {text : String} (h : CanSign c request)
    (hpath : s.path = request.uri.path) (hquery : s.query = query.encode) :
    ∃ request', deliver c request s (signature c text) = .ok request' := by
  have htarget : isTarget s.path none = true := by
    rw [hpath]
    exact Uri.isTarget_path _
  have hstar : s.path ≠ "*" := hpath ▸ h.star
  have hmade : ∀ x ∈ (signature c text).toList, isVisible x = true :=
    char_of_mem_signature (by decide)
  rcases hplacement : c.manner.placement with - | -
  · obtain ⟨sent, hsent⟩ : ∃ headers, signHeaders c s.headers (signature c text) = .ok headers :=
      exists_signHeaders (h.scope hplacement) (h.token hplacement) hmade
    obtain ⟨uri, huri⟩ := exists_uri (s := { s with headers := sent }) htarget hstar hquery
    exact ⟨_, (deliver_header_iff hplacement).mpr ⟨sent, uri, hsent, huri, rfl⟩⟩
  · -- what is added behind the encoded query is the encoding of the late parameters
    have hsent : s.query ++ signedParameters c (signature c text)
        = Query.encode (query ++ lateParameters c (signature c text)) := by
      rw [Query.encode_append, encode_lateParameters (encodePart_signature c text), hquery]
    obtain ⟨uri, huri⟩ := exists_uri
      (s := { s with query := s.query ++ signedParameters c (signature c text) })
      htarget hstar hsent
    exact ⟨_, (deliver_query_iff hplacement).mpr ⟨uri, huri, rfl⟩⟩

/-- **A request that nothing keeps from being signed is signed.** -/
theorem exists_sign_ok {bench : Bench} (h : CanSign c bench.request) :
    ∃ made bench', (sign c).outcome bench = (.ok made, bench') := by
  obtain ⟨parts, headers, hparts, hheaders, hreadable⟩ := h.fields
  have hpath : parts.path = bench.request.uri.path := path_of_ofUri hparts
  obtain ⟨hprepare, canonical, hcanonical⟩ :=
    exists_prepare parts hheaders hreadable (hpath ▸ h.path)
  have hform : canonicalize c bench.request = .ok (withFields c parts headers, canonical) := by
    simp only [canonicalize, hparts, hprepare, hcanonical, bind, Except.bind, pure, Except.pure]
  obtain ⟨sorted, -, hencode, -⟩ :=
    exists_encode_eq_canonicalQuery (parts.query ++ addedParameters c headers)
  obtain ⟨request, hdeliver⟩ : ∃ request, deliver c bench.request (withFields c parts headers)
      (signature c (working c canonical).stringToSign) = .ok request :=
    exists_deliver h hpath hencode.symm
  exact ⟨_, _, sign_eq_ok_iff.mpr
    ⟨h.algorithm, _, canonical, request, hform, rfl, hdeliver, rfl⟩⟩

end Signing

end AwsSigning
