/-
AwsSigning/Proofs/Signing/Verifier.lean

The other side: what a server does to check a signature.

A verifier knows the secret, and how the signer was set up.  Everything else
it takes from the request as it was sent, so it never sees the parts that the
signer worked on.  It finds the names of the signed fields, the point in time
and, for a signed URL, the scope, writes the request down as the procedure of
signing asks for it, and signs it again (`headerSignature?`,
`querySignature?`).

Where these stand among texts that it does not control, such as the access
key, it reads from the end that it does know: the parts of an authorization
from the right, the scope of a credential up to the date in front of it.

For both ways the core is the same (`signature?_eq`): a request whose path,
parameters and signed fields are those of the parts that were signed gets the
signature that was made.
-/
import Mathlib.Data.List.Basic
import AwsSigning.Proofs.Signing.Outcome
import AwsSigning.Proofs.Signing.Fields
import AwsSigning.Proofs.Signing.Procedure
import AwsSigning.Proofs.Time.Calendar

namespace AwsSigning.Signing

/-- What a verifier has to know besides the request. -/
structure Verifier where
  region : String
  service : String
  secret : String
  /-- What is signed in place of the payload. -/
  payload : PayloadValue
  normalizePath : Bool
  encodeTwice : Bool

/-- What a verifier has to know about a signer. -/
def Config.verifier (c : Config) : Verifier where
  region := c.region
  service := c.service
  secret := c.credential.secretAccessKey
  payload := c.payload
  normalizePath := c.manner.normalizePath
  encodeTwice := c.manner.encodeTwice

namespace Verifier

variable {v : Verifier} {c : Config} {s : Signable} {hs : Headers}

/-! ### Names and dates in texts -/

/-- The names in a list of names. -/
def listedNames (text : List Char) : List String :=
  (Text.splitWhen (· = ';') text).map String.ofList

/-- What stands before the last part of an authorization, and what that part says about its
label. -/
def lastPart? (label : String) (text : List Char) : Option (List Char × List Char) := do
  let (front, part) ← Text.splitLast? ',' text
  let value ← (" " ++ label ++ "=").toList.isPrefixOf? part
  pure (front, value)

/-- The names of the signed fields in an authorization. -/
def authorizedNames? (authorization : String) : Option (List String) := do
  let (front, _) ← lastPart? "Signature" authorization.toList
  let (_, names) ← lastPart? "SignedHeaders" front
  pure (listedNames names)

/-- What the signatures of a day are good for. -/
def scope (v : Verifier) (date : String) : String := scopeText date v.region v.service

/-- The day in a point in time. -/
def stampDate? (stamp : String) : Option String :=
  (Text.splitFirst? 'T' stamp.toList).map fun (date, _) => String.ofList date

/-- The day in a credential whose scope is one of the verifier. -/
def credentialDate? (v : Verifier) (credential : String) : Option String := do
  let front ← (v.scope "").toList.isSuffixOf? credential.toList
  let (_, date) ← Text.splitLast? '/' front
  pure (String.ofList date)

/-! ### Parts of the request -/

/-- The text of the one value under a name. -/
def soleText? (headers : Headers) (name : HeaderName) : Option String :=
  match headers.values name with
  | [value] => Utf8.toString? value.bytes
  | _ => none

/-- The value of the one parameter of a name. -/
def soleParameter? (query : Query) (name : String) : Option String :=
  match query.filter (·.1 = name) with
  | [(_, value)] => some value
  | _ => none

/-- The values of a header field as they stand. -/
def field? (headers : Headers) (name : String) : Option (String × List String) := do
  let texts ← ((headers.filter (·.1.text = name)).map (·.2)).mapM HeaderValue.text?
  pure (name, texts)

/-- What the verifier has settled about paths. -/
def manner (v : Verifier) : Manner where
  normalizePath := v.normalizePath
  encodeTwice := v.encodeTwice

/-- The text that is signed of a request, with some parameters and some fields. -/
def requestText? (v : Verifier) (request : Request) (query : Query) (names : List String) :
    Option String := do
  let path ← (canonicalPath v.manner request.uri.path).toOption
  let fields ← names.mapM (field? request.headers)
  pure (requestText request.method.text path query fields v.payload.text)

/-! ### The signature once more -/

/-- The signature of a text. -/
def signatureOf (v : Verifier) (date text : String) : String :=
  Hmac.hexDigest (derivedKey v.secret date v.region v.service) (Utf8.ofString text)

/-- The signature of a request at a point in time. -/
def signature? (v : Verifier) (stamp date : String) (request : Request) (query : Query)
    (names : List String) : Option String := do
  let text ← v.requestText? request query names
  pure (v.signatureOf date (textToSign stamp (v.scope date) text))

/-- The signature that a request ought to carry in its authorization. -/
def headerSignature? (v : Verifier) (request : Request) : Option String := do
  let names ← authorizedNames? (← soleText? request.headers .authorization)
  let stamp ← soleText? request.headers .amzDate
  let date ← stampDate? stamp
  v.signature? stamp date request request.uri.parameters names

/-- Whether a parameter is no part of what was signed: it is the signature, or a token that was
added after it. -/
def isLate (tokenIsLate : Bool) (parameter : String × String) : Bool :=
  parameter.1 = "X-Amz-Signature" || tokenIsLate && parameter.1 = "X-Amz-Security-Token"

/-- The signature that a signed URL ought to carry. -/
def querySignature? (v : Verifier) (tokenIsLate : Bool) (request : Request) : Option String := do
  let query := request.uri.parameters.filter (!isLate tokenIsLate ·)
  let names := listedNames (← soleParameter? query "X-Amz-SignedHeaders").toList
  let stamp ← soleParameter? query "X-Amz-Date"
  let date ← v.credentialDate? (← soleParameter? query "X-Amz-Credential")
  v.signature? stamp date request query names

/-! ### Reading what the signer wrote -/

/-- A list of names is read back, unless it is empty. -/
theorem listedNames_signedNamesText (h : signedNames hs ≠ []) :
    listedNames (signedNamesText hs).toList = (signedNames hs).map (·.text) := by
  have htext : (signedNamesText hs).toList
      = List.intercalate [';'] ((signedNames hs).map fun name => name.text.toList) := by
    rw [signedNamesText, String.toList_intercalate, List.map_map]
    rfl
  rw [listedNames, htext, Text.splitWhen_intercalate (by simpa using h), List.map_map]
  · exact List.map_congr_left fun name _ => String.ofList_toList
  · simp only [List.mem_map, forall_exists_index, and_imp, forall_apply_eq_imp_iff₂]
    exact fun name _ => HeaderName.not_mem_text (by decide) name

/-- No comma is in a list of names. -/
theorem comma_not_mem_signedNamesText (hs : Headers) : ',' ∉ (signedNamesText hs).toList := by
  intro hmem
  rw [signedNamesText, String.toList_intercalate, List.map_map] at hmem
  have hmark : ∀ x ∈ ";".toList, x ≠ ',' := List.forall_mem_ne'.mpr (by decide)
  refine Text.forall_mem_intercalate (P := (· ≠ ',')) hmark ?_ _ hmem rfl
  simp only [List.mem_map, forall_exists_index, and_imp, forall_apply_eq_imp_iff₂]
  rintro name - x hx rfl
  exact HeaderName.not_mem_text (by decide) name hx

/-- A last part that holds no comma is found. -/
theorem lastPart?_append {label : String} {value : List Char} (hlabel : ',' ∉ label.toList)
    (hvalue : ',' ∉ value) (front : List Char) :
    lastPart? label (front ++ ',' :: ((" " ++ label ++ "=").toList ++ value))
      = some (front, value) := by
  have hpart : ',' ∉ (" " ++ label ++ "=").toList ++ value := by
    simp [hlabel, hvalue]
  rw [lastPart?, Text.splitLast?_append hpart]
  show ((" " ++ label ++ "=").toList.isPrefixOf? _).bind _ = _
  rw [List.isPrefixOf?_eq_some_iff_append_eq.mpr rfl]
  rfl

/-- **The names are read back from an authorization**, whatever its access key looks like. -/
theorem authorizedNames?_authorizationText {signature : String} (hnames : signedNames hs ≠ [])
    (hsignature : ',' ∉ signature.toList) :
    authorizedNames? (authorizationText c hs signature)
      = some ((signedNames hs).map (·.text)) := by
  have htext : (authorizationText c hs signature).toList
      = ((algorithmName ++ " Credential=" ++ c.credentialScope).toList
          ++ ',' :: ((" " ++ "SignedHeaders" ++ "=").toList ++ (signedNamesText hs).toList))
        ++ ',' :: ((" " ++ "Signature" ++ "=").toList ++ signature.toList) := by
    simp [authorizationText]
  -- neither the signature nor the list of names holds a comma, so both cuts are where they were
  rw [authorizedNames?, htext, lastPart?_append (by decide) hsignature]
  show (lastPart? _ _).bind _ = _
  rw [lastPart?_append (by decide) (comma_not_mem_signedNamesText hs)]
  exact congrArg some (listedNames_signedNamesText hnames)

theorem stampDate?_stampText (t : Instant) : stampDate? t.stampText = some t.dateText := by
  obtain ⟨rest, hcut⟩ := t.splitFirst?_stampText
  simp [stampDate?, hcut]

/-- **The day is read back from a credential**, whatever its access key looks like. -/
theorem credentialDate?_credentialScope (c : Config) :
    c.verifier.credentialDate? c.credentialScope = some c.date.dateText := by
  have htext : c.credentialScope.toList
      = (c.credential.accessKeyId.toList ++ '/' :: c.date.dateText.toList)
        ++ (c.verifier.scope "").toList := by
    simp [Config.credentialScope, Config.scope_eq_scopeText, scope, scopeText, Config.verifier]
  -- the scope is known up to its day, and a day holds no slash
  rw [credentialDate?, htext, List.isSuffixOf?_eq_some_iff_append_eq.mpr rfl]
  show (Text.splitLast? _ _).bind _ = _
  rw [Text.splitLast?_append (Instant.not_mem_dateText (by decide) (by decide) c.date)]
  simp

theorem soleText?_of_shows {name : HeaderName} {text : String} (h : Shows hs name text) :
    soleText? hs name = some text := by
  obtain ⟨value, hvalues, hbytes⟩ := h
  simp [soleText?, hvalues, hbytes]

/-! ### The form that was signed -/

/-- The canonical path depends on nothing but the choices about paths. -/
theorem canonicalPath_congr {m m' : Manner} (hnormalize : m.normalizePath = m'.normalizePath)
    (htwice : m.encodeTwice = m'.encodeTwice) (path : String) :
    canonicalPath m path = canonicalPath m' path := by
  simp only [canonicalPath, plainPath, hnormalize, htwice]

/-- A field is read as it was signed, if its values have not been touched. -/
theorem field?_of_field {hs' : Headers} {name : HeaderName} {field : String × List String}
    (huntouched : Untouched hs hs' name) (h : CanonicalRequest.field hs name = .ok field) :
    field? hs' name.text = some field := by
  obtain ⟨texts, htexts, h⟩ := bind_eq_ok_iff.mp h
  cases h
  have hvalues : (hs'.filter (·.1.text = name.text)).map (·.2) = hs.values name := by
    simp only [HeaderName.text_inj]
    exact huntouched
  have hread : ((hs.values name).map id).mapM HeaderValue.text? = some texts :=
    mapM_eq_some_of_mapM_eq_ok htexts fun _ _ _ => valueText_eq_ok_iff.mp
  rw [List.map_id] at hread
  simp [field?, hvalues, hread]

/-- A request shows the parts that were signed, with some parameters for the query. -/
structure ShowsParts (s : Signable) (request : Request) (query : Query) : Prop where
  method : request.method = s.method
  path : request.uri.path = s.path
  query : canonicalQuery query = s.query
  fields : ∀ name ∈ signedNames s.headers, Untouched s.headers request.headers name

variable {canonical : CanonicalRequest} {request : Request} {query : Query}

/-- A verifier that sees the parts that were signed writes the text that was signed. -/
theorem requestText?_eq (h : CanonicalRequest.of c s = .ok canonical)
    (hshows : ShowsParts s request query) :
    c.verifier.requestText? request query ((signedNames s.headers).map (·.text))
      = some canonical.render := by
  obtain ⟨path, hpath, h⟩ := bind_eq_ok_iff.mp h
  obtain ⟨fields, hfields, h⟩ := bind_eq_ok_iff.mp h
  cases h
  have hread : ((signedNames s.headers).map (·.text)).mapM (field? request.headers)
      = some fields :=
    mapM_eq_some_of_mapM_eq_ok hfields fun name hname _ =>
      field?_of_field (hshows.fields name hname)
  have hmanner : canonicalPath c.verifier.manner request.uri.path = .ok path := by
    rw [hshows.path, ← hpath]
    exact canonicalPath_congr rfl rfl _
  have hpayload : c.verifier.payload = c.payload := rfl
  rw [CanonicalRequest.render_eq_requestText hshows.query.symm]
  simp [requestText?, hmanner, hread, hshows.method, hpayload, Except.toOption]

/-- The text that was signed has the signature that was made. -/
theorem signatureOf_eq (c : Config) (r : CanonicalRequest) :
    c.verifier.signatureOf c.date.dateText
        (textToSign c.date.stampText (c.verifier.scope c.date.dateText) r.render)
      = signature c (working c r).stringToSign := by
  rw [signatureOf, signature, signingKey_eq_derivedKey, stringToSign_eq_textToSign]
  rfl

/-- **A verifier that sees the parts that were signed finds the signature that was made.** -/
theorem signature?_eq (h : CanonicalRequest.of c s = .ok canonical)
    (hshows : ShowsParts s request query) :
    c.verifier.signature? c.date.stampText c.date.dateText request query
        ((signedNames s.headers).map (·.text))
      = some (signature c (working c canonical).stringToSign) := by
  rw [signature?, requestText?_eq h hshows, ← signatureOf_eq]
  rfl

/-! ### Names that are signed -/

theorem mem_signedNames {name : HeaderName} :
    name ∈ signedNames hs ↔ hs.has name = true ∧ name ∉ unsignedNames := by
  simp [signedNames, Headers.mem_names]

/-- There is always a name in the list: the server is signed. -/
theorem signedNames_ne_nil (h : hs.has .host = true) : signedNames hs ≠ [] := by
  have hhost : HeaderName.host ∈ signedNames hs := mem_signedNames.mpr ⟨h, by decide⟩
  exact List.ne_nil_of_mem hhost

end Verifier

end AwsSigning.Signing
