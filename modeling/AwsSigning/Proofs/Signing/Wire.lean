/-
AwsSigning/Proofs/Signing/Wire.lean

What arrives of the parts that are sent.

The parts of a request are sent with path and query in one text, which is
read again when the URI is made.  The path comes back as it was, and so do
the parameters, if they were encoded and none of them is a pair of two empty
texts (`uri_of_encoded`).  An encoded query holds nothing but characters of
queries, so no character of it can end it early.
-/
import AwsSigning.Proofs.Http.Query
import AwsSigning.Proofs.Http.Uri
import AwsSigning.Proofs.Text.Split
import AwsSigning.Signing.Signable

namespace AwsSigning

/-! ### Path and query of a URI -/

namespace Uri

/-- The path of a URI; where there is none, the root is meant. -/
def path (u : Uri) : String := (u.target.getD .root).path

/-- The query of a URI, as it is written. -/
def query (u : Uri) : Option String := (u.target.getD .root).query

/-- The parameters in the query of a URI. -/
def parameters (u : Uri) : Query := (u.query.map Query.decode).getD []

theorem isTarget_path (u : Uri) : isTarget u.path none = true :=
  isTarget_none (u.target.getD .root).legal

end Uri

/-! ### Characters of encoded queries -/

namespace Query

theorem isQueryChar_of_mem_encodePart {s : String} {c : Char} (h : c ∈ (encodePart s).toList) :
    isQueryChar c = true := by
  rw [encodePart, Percent.encodeString, String.toList_ofList] at h
  exact Percent.forall_mem_encode (by decide +kernel) _ c h

/-- An encoded query is written with characters of queries. -/
theorem isQueryChar_of_mem_render (q : Query) :
    ∀ c ∈ (render q.encode "=" "&").toList, isQueryChar c = true := by
  rw [render, String.toList_intercalate]
  apply Text.forall_mem_intercalate (List.all_eq_true.mp (by decide))
  simp only [encode, List.map_map, List.mem_map, forall_exists_index, and_imp,
    forall_apply_eq_imp_iff₂, Function.comp_apply, renderPair]
  intro pair _ c hc
  split at hc
  · exact isQueryChar_of_mem_encodePart hc
  · simp only [String.toList_append, List.mem_append] at hc
    rcases hc with (hname | hmark) | hvalue
    · exact isQueryChar_of_mem_encodePart hname
    · have hall : "=".toList.all isQueryChar = true := by decide
      exact List.all_eq_true.mp hall c hmark
    · exact isQueryChar_of_mem_encodePart hvalue

end Query

/-! ### The URI that is made of the parts -/

namespace Signing.Signable

variable {s : Signable} {u : Uri} {q : Query}

/-- The written query of encoded parameters. -/
def writtenQuery (q : Query) : Option String :=
  if q = [] then none else some (q.encode.render "=" "&")

/-- Path and encoded query are written as a target, but for a query behind a lone star. -/
theorem exists_target (hpath : isTarget s.path none = true) (hstar : s.path = "*" → q = [])
    (hquery : s.query = q.encode) :
    ∃ t : Target, s.wire = t.render ∧ t.path = s.path ∧ t.query = writtenQuery q := by
  unfold writtenQuery
  split
  · next hnil =>
    subst hnil
    refine ⟨⟨s.path, none, hpath⟩, ?_, rfl, rfl⟩
    simp [wire, hquery, Query.encode, Target.render]
  · next hne =>
    -- a path that is not the star starts with a slash, and a query may follow it
    have hlegal : isTarget s.path (some (q.encode.render "=" "&")) = true := by
      rcases isTarget_iff.mp hpath with ⟨hlone, -⟩ | ⟨hslash, hchars, -⟩
      · exact absurd (hstar hlone) hne
      · refine isTarget_iff.mpr (.inr ⟨hslash, hchars, ?_⟩)
        rintro _ ⟨⟩
        exact Query.isQueryChar_of_mem_render q
    refine ⟨⟨s.path, some _, hlegal⟩, ?_, rfl, rfl⟩
    rw [wire, hquery, if_neg (by simpa [Query.encode] using hne), Target.render,
      String.append_assoc]

theorem uri_of_render {t : Target} (h : s.wire = t.render) :
    s.uri = .ok ⟨some s.scheme, some s.authority, some t⟩ := by
  rw [uri, h, Target.parse_render]

/-- A query behind a lone star is refused, whatever it is. -/
theorem uri_of_star (hstar : s.path = "*") (hne : q ≠ []) (hquery : s.query = q.encode) :
    s.uri = .error (.http (.uri .pathWithoutSlash)) := by
  have hwire : s.wire = "*" ++ "?" ++ q.encode.render "=" "&" := by
    rw [wire, hquery, if_neg (by simpa [Query.encode] using hne), hstar]
  have hparse : Target.parse s.wire = .error .pathWithoutSlash := by
    rw [hwire, Target.parse]
    simp [endsAuthority]
  rw [uri, hparse]

/-- A lone star takes no query. -/
theorem star_of_uri (hquery : s.query = q.encode) (h : s.uri = .ok u) : s.path = "*" → q = [] := by
  intro hstar
  by_cases hne : q = []
  · exact hne
  · rw [uri_of_star hstar hne hquery] at h
    cases h

/-- The path and the encoded query are read as they were written. -/
theorem target_of_uri (hpath : isTarget s.path none = true) (hquery : s.query = q.encode)
    (h : s.uri = .ok u) : u.path = s.path ∧ u.query = writtenQuery q := by
  obtain ⟨t, hwire, htpath, htquery⟩ := exists_target hpath (star_of_uri hquery h) hquery
  rw [uri_of_render hwire] at h
  cases h
  exact ⟨htpath, htquery⟩

/-- Of a written query the parameters are those with a name or a value. -/
theorem parameters_of_writtenQuery (h : u.query = writtenQuery q) :
    u.parameters = q.filter (· ≠ ("", "")) := by
  rw [Uri.parameters, h, writtenQuery]
  split
  · next hnil =>
    subst hnil
    rfl
  · exact Query.decode_render_encode q

/-- **Path and parameters arrive as they were sent.** -/
theorem uri_of_encoded (hpath : isTarget s.path none = true) (hquery : s.query = q.encode)
    (hpairs : ∀ pair ∈ q, pair ≠ ("", "")) (h : s.uri = .ok u) :
    u.path = s.path ∧ u.parameters = q := by
  obtain ⟨hp, hq⟩ := target_of_uri hpath hquery h
  refine ⟨hp, ?_⟩
  rw [parameters_of_writtenQuery hq]
  simpa using hpairs

end Signing.Signable

end AwsSigning
