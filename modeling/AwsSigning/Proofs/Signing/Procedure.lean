/-
AwsSigning/Proofs/Signing/Procedure.lean

The procedure of signing, spelled out.

The signer keeps a canonical request in parts, writes it part by part, and
folds the texts of a scope into its key.  Here the same texts and the same key
are written down line by line and step by step, in terms of digests alone and
of nothing that the signer defines:

    request   method, path, query, a line for each field, an empty line,
              the names of the fields, payload
    toSign    AWS4-HMAC-SHA256, time, scope, SHA256 request
    key       HMAC (HMAC (HMAC (HMAC "AWS4<secret>" day) region) service) "aws4_request"

This is what a verifier goes by, and what is meant by the signature of a text
under a secret.  The signer does the same (`render_eq_requestText`,
`stringToSign_eq_textToSign`, `signingKey_eq_derivedKey`).
-/
import AwsSigning.Proofs.Signing.Parameters

namespace AwsSigning.Signing

variable {r : CanonicalRequest} {query : Query}

/-! ### The texts -/

/-- What the signatures of a day are good for. -/
def scopeText (date region service : String) : String :=
  date ++ "/" ++ region ++ "/" ++ service ++ "/aws4_request"

/-- Parameters as they are signed: encoded, in the order of their names, and in that of their values
under one name. -/
def queryText (query : Query) : String :=
  "&".intercalate <|
    (query.encode.insertionSort (Prod.Lex (· < ·) (· ≤ ·))).map fun pair => pair.1 ++ "=" ++ pair.2

/-- A field as it is signed. -/
def fieldText (field : String × List String) : String :=
  field.1 ++ ":" ++ ",".intercalate field.2

/-- A request as it is signed. -/
def requestText (method path : String) (query : Query) (fields : List (String × List String))
    (payload : String) : String :=
  "\n".intercalate <|
    [method, path, queryText query] ++ fields.map fieldText
      ++ ["", ";".intercalate (fields.map (·.1)), payload]

/-- The text that a signature is made of. -/
def textToSign (stamp scope request : String) : String :=
  "\n".intercalate ["AWS4-HMAC-SHA256", stamp, scope, Sha256.hexDigest (Utf8.ofString request)]

/-! ### The key -/

/-- The key for one day, one region and one service, derived from a secret in four steps. -/
def derivedKey (secret date region service : String) : Bytes :=
  let ofDay := Hmac.digest (Utf8.ofString ("AWS4" ++ secret)) (Utf8.ofString date)
  let ofRegion := Hmac.digest ofDay (Utf8.ofString region)
  let ofService := Hmac.digest ofRegion (Utf8.ofString service)
  Hmac.digest ofService (Utf8.ofString "aws4_request")

/-- **The signer derives this key.** -/
theorem signingKey_eq_derivedKey (secret date region service : String) :
    signingKey secret date region service = derivedKey secret date region service := rfl

/-! ### What the signer writes -/

theorem Config.scope_eq_scopeText (c : Config) :
    c.scope = scopeText c.date.dateText c.region c.service := by
  -- here the last slash and the last part are one text
  apply String.toList_inj.mp
  simp [scope, scopeText, terminator]

/-- The signer sorts the parameters into this order. -/
theorem canonicalQuery_eq_insertionSort (query : Query) :
    canonicalQuery query = query.encode.insertionSort (Prod.Lex (· < ·) (· ≤ ·)) := by
  apply canonicalQuery_eq_of_pairwise
  · exact List.perm_insertionSort _ _
  · exact List.pairwise_insertionSort _ _

/-- Lines that have an end each, in front of others. -/
theorem intercalate_lines (lines : List String) {rest : List String} (hrest : rest ≠ []) :
    "\n".intercalate (lines ++ rest)
      = String.join (lines.map (· ++ "\n")) ++ "\n".intercalate rest := by
  induction lines with
  | nil => rfl
  | cons line lines ih =>
    rw [List.cons_append, String.intercalate_cons_of_ne_nil (by simp [hrest]), ih, List.map_cons,
      String.join_cons]
    simp only [String.append_assoc]

/-- **The signer writes this text.** -/
theorem CanonicalRequest.render_eq_requestText (hquery : r.query = canonicalQuery query) :
    r.render = requestText r.method r.path query r.fields r.payload := by
  have hparameters : "&".intercalate (r.query.map renderParameter) = queryText query := by
    rw [hquery, canonicalQuery_eq_insertionSort]
    rfl
  have hfields : r.fields.map renderField = (r.fields.map fieldText).map (· ++ "\n") := by
    rw [List.map_map]
    rfl
  rw [render, hparameters, hfields, requestText, List.append_assoc,
    intercalate_lines _ (by simp), intercalate_lines _ (by simp)]
  simp [String.append_assoc]

/-- **The signer signs this text.** -/
theorem stringToSign_eq_textToSign (c : Config) (r : CanonicalRequest) :
    (working c r).stringToSign
      = textToSign c.date.stampText (scopeText c.date.dateText c.region c.service) r.render := by
  rw [working, c.scope_eq_scopeText]
  rfl

end AwsSigning.Signing
