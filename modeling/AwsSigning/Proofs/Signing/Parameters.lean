/-
AwsSigning/Proofs/Signing/Parameters.lean

The canonical query as a normal form.

Encoding and sorting forget nothing but the order of the parameters: a
canonical query is the encoding of some list of parameters, which is the old
list in another order, and whose canonical query is the same
(`exists_encode_eq_canonicalQuery`).  So whoever reads a canonical query back
and makes it canonical again arrives at the same query.
-/
import Mathlib.Data.List.Sort
import Mathlib.Data.Prod.Lex
import Mathlib.Data.String.Basic
import AwsSigning.Proofs.Digest
import AwsSigning.Proofs.Signing.Outcome

namespace AwsSigning.Signing

variable {c : Config} {s : Signable} {request : Request} {made : String}

/-! ### The order of parameters -/

theorem parameterAtMost_iff {a b : String × String} :
    parameterAtMost a b = true ↔ Prod.Lex (· < ·) (· ≤ ·) a b := by
  rw [Prod.lex_def]
  simp [parameterAtMost]

theorem parameterAtMost_trans (a b c : String × String) (hab : parameterAtMost a b = true)
    (hbc : parameterAtMost b c = true) : parameterAtMost a c = true := by
  rw [parameterAtMost_iff] at *
  exact trans_of _ hab hbc

theorem parameterAtMost_total (a b : String × String) :
    (parameterAtMost a b || parameterAtMost b a) = true := by
  rw [Bool.or_eq_true, parameterAtMost_iff, parameterAtMost_iff]
  exact total_of _ a b

theorem parameterAtMost_antisymm {a b : String × String} (hab : parameterAtMost a b = true)
    (hba : parameterAtMost b a = true) : a = b := by
  rw [parameterAtMost_iff] at hab hba
  apply toLex.injective
  exact le_antisymm (show toLex a ≤ toLex b from hab) (show toLex b ≤ toLex a from hba)

/-! ### The normal form -/

theorem canonicalQuery_eq (query : Query) :
    canonicalQuery query = query.encode.mergeSort parameterAtMost := rfl

theorem pairwise_canonicalQuery (query : Query) :
    (canonicalQuery query).Pairwise fun a b => parameterAtMost a b = true :=
  List.pairwise_mergeSort parameterAtMost_trans parameterAtMost_total _

/-- There is no other list of the same encoded parameters in order. -/
theorem canonicalQuery_eq_of_pairwise {query sorted : Query} (hperm : sorted.Perm query.encode)
    (hsorted : sorted.Pairwise (Prod.Lex (· < ·) (· ≤ ·))) : canonicalQuery query = sorted := by
  have hperm' : (canonicalQuery query).Perm sorted := (List.mergeSort_perm _ _).trans hperm.symm
  exact hperm'.eq_of_pairwise (fun _ _ _ _ => parameterAtMost_antisymm)
    (pairwise_canonicalQuery query) (hsorted.imp parameterAtMost_iff.mpr)

/-- **The order of the parameters does not matter.** -/
theorem canonicalQuery_eq_of_perm {query query' : Query} (h : query.Perm query') :
    canonicalQuery query = canonicalQuery query' := by
  have hperm : (canonicalQuery query').Perm query.encode :=
    (List.mergeSort_perm _ _).trans (h.symm.map _)
  exact canonicalQuery_eq_of_pairwise hperm
    ((pairwise_canonicalQuery query').imp parameterAtMost_iff.mp)

/-- **The canonical query is the encoding of the parameters in another order**, and in that order
they have the same canonical query. -/
theorem exists_encode_eq_canonicalQuery (query : Query) :
    ∃ sorted : Query, sorted.Perm query ∧ sorted.encode = canonicalQuery query ∧
      canonicalQuery sorted = canonicalQuery query := by
  have hsorted : Query.encode (query.mergeSort fun a b =>
      parameterAtMost (Query.encodePart a.1, Query.encodePart a.2)
        (Query.encodePart b.1, Query.encodePart b.2)) = canonicalQuery query :=
    List.map_mergeSort fun _ _ _ _ => rfl
  refine ⟨_, List.mergeSort_perm query _, hsorted, ?_⟩
  -- what is in order already is not moved by sorting
  rw [canonicalQuery_eq, hsorted, List.mergeSort_of_pairwise (pairwise_canonicalQuery query)]

/-- The query of the parts in canonical form is the encoding of the parameters of the request and
those that were added, in an order that is canonical. -/
theorem Prepared.exists_sorted (h : Prepared c request s) :
    ∃ sorted : Query, sorted.Perm (request.uri.parameters ++ addedParameters c s.headers) ∧
      s.query = sorted.encode ∧ canonicalQuery sorted = s.query := by
  obtain ⟨sorted, hperm, hencode, hsorted⟩ :=
    exists_encode_eq_canonicalQuery (request.uri.parameters ++ addedParameters c s.headers)
  rw [← h.query] at hencode hsorted
  exact ⟨sorted, hperm, hencode.symm, hsorted⟩

/-! ### Signatures -/

/-- A signature is not empty. -/
theorem signature_ne_empty {text : String} : signature c text ≠ "" := by
  intro h
  have hlength := congrArg String.length h
  rw [signature, Hmac.length_hexDigest] at hlength
  cases hlength

/-- A signature is written with digits in small letters. -/
theorem char_of_mem_signature {text : String} {P : Char → Prop}
    (h : ∀ n < 16, P (Hex.lowerDigit n)) : ∀ x ∈ (signature c text).toList, P x :=
  Hex.forall_mem_encode h _

/-- A signature is written in a query as it is. -/
theorem encodePart_signature (c : Config) (text : String) :
    Query.encodePart (signature c text) = signature c text :=
  Percent.encodeString_of_kept (char_of_mem_signature (by decide))

/-! ### Parameters that are added after signing -/

/-- The token that is added after the signature. -/
def lateToken? (c : Config) : Option String :=
  if c.manner.omitToken then c.credential.sessionToken else none

/-- What is added to the parameters after the signature is made. -/
def lateParameters (c : Config) (made : String) : Query :=
  ("X-Amz-Signature", made)
    :: ((lateToken? c).map fun token => ("X-Amz-Security-Token", token)).toList

theorem signedParameters_eq (c : Config) (made : String) :
    signedParameters c made = ("X-Amz-Signature", made) ::
      ((lateToken? c).map fun token =>
        ("X-Amz-Security-Token", encodeParameter token)).toList := by
  unfold signedParameters lateToken?
  split <;> rfl

/-- The late parameters are added in their encoded form. -/
theorem encode_lateParameters (h : Query.encodePart made = made) :
    (lateParameters c made).encode = signedParameters c made := by
  have hsignature : Query.encodePart "X-Amz-Signature" = "X-Amz-Signature" := by decide +kernel
  have htoken : Query.encodePart "X-Amz-Security-Token" = "X-Amz-Security-Token" := by
    decide +kernel
  rw [signedParameters_eq, lateParameters]
  rcases lateToken? c with - | token
  · simp [Query.encode, hsignature, h]
  · have hvalue : encodeParameter token = Query.encodePart token := rfl
    simp [Query.encode, hsignature, htoken, h, hvalue]

end AwsSigning.Signing
