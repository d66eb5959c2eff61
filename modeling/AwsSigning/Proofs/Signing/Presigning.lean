/-
AwsSigning/Proofs/Signing/Presigning.lean

The parameters that announce a signature in the query.

A signature in the query comes with six parameters of its own (`announced`),
and with the token of the credential if it has one.  They are written next to
whatever the request has, and nothing is ever replaced or taken away.  So under
each name a signed URL has the values of the request and then, in some order,
what this signing says (`announcedBeside_of_sign`):

    signed URL  ~  request  ++  [value of this signing]

A verifier wants one value under each name.  It finds one exactly if the
request had none (`announcedOnce_iff`), so never in a URL that was signed
before (`not_announcedOnce_of_sign_twice`).  The names of a request are those
that are read: an escape sequence in a name spells the same name.
-/
import AwsSigning.Proofs.Signing.QueryContent
import AwsSigning.Proofs.Signing.QuerySignature

namespace AwsSigning

/-! ### Values under a name -/

namespace Query

variable {query query' : Query} {name : String}

/-- The values under a name, in their order. -/
def valuesOf (query : Query) (name : String) : List String :=
  (query.filter (·.1 = name)).map (·.2)

theorem valuesOf_append (query more : Query) (name : String) :
    (query ++ more).valuesOf name = query.valuesOf name ++ more.valuesOf name := by
  simp only [valuesOf, List.filter_append, List.map_append]

theorem valuesOf_perm (h : query.Perm query') (name : String) :
    (query.valuesOf name).Perm (query'.valuesOf name) :=
  (h.filter _).map _

theorem valuesOf_eq_nil_iff : query.valuesOf name = [] ↔ ∀ pair ∈ query, pair.1 ≠ name := by
  simp [valuesOf, List.filter_eq_nil_iff]

/-- A pair of two empty texts has no name that counts. -/
theorem valuesOf_filter_ne_empty (query : Query) (hname : name ≠ "") :
    valuesOf (query.filter (· ≠ ("", ""))) name = query.valuesOf name := by
  rw [valuesOf, valuesOf, List.filter_filter]
  refine congrArg _ (List.filter_congr fun pair _ => ?_)
  by_cases h : pair.1 = name
  · have hpair : pair ≠ ("", "") := fun e => hname (h.symm.trans (congrArg Prod.fst e))
    simp [h, hpair]
  · simp [h]

end Query

namespace Signing

variable {c : Config} {validFor : Duration} {bench bench' : Bench} {made name : String}

/-! ### What a signing says -/

/-- The parameters that announce a signature, with the values of one signing. -/
def announced (c : Config) (validFor : Duration) (headers : Headers) (made : String) : Query :=
  [("X-Amz-Algorithm", algorithmName), ("X-Amz-Credential", c.credentialScope),
   ("X-Amz-Date", c.date.stampText), ("X-Amz-Expires", toString validFor.seconds),
   ("X-Amz-SignedHeaders", signedNamesText headers), ("X-Amz-Signature", made)]

/-- The names of the parameters that announce a signature. -/
def announcedNames : List String :=
  ["X-Amz-Algorithm", "X-Amz-Credential", "X-Amz-Date", "X-Amz-Expires", "X-Amz-SignedHeaders",
   "X-Amz-Signature"]

theorem map_announced (c : Config) (validFor : Duration) (headers : Headers) (made : String) :
    (announced c validFor headers made).map (·.1) = announcedNames := rfl

/-- A signer adds each announcement once, and the token of the credential whether it is signed or
not. -/
theorem valuesOf_signerParameters (hplacement : c.manner.placement = .query)
    (hvalid : c.manner.validFor = some validFor) (headers : Headers) (made : String) :
    (∀ pair ∈ announced c validFor headers made,
      (signerParameters c headers made).valuesOf pair.1 = [pair.2]) ∧
    (signerParameters c headers made).valuesOf "X-Amz-Security-Token"
      = c.credential.sessionToken.toList := by
  have hadded : addedParameters c headers = signatureParameters c headers validFor := by
    simp [addedParameters, hplacement, hvalid]
  rw [signerParameters, hplacement]
  dsimp only
  rw [hadded, signatureParameters, lateParameters, lateToken?]
  -- the token comes before the signature or behind it, if there is one
  cases homit : c.manner.omitToken with
  | true => rcases c.credential.sessionToken with - | token <;> simp [announced, Query.valuesOf]
  | false => rcases c.credential.sessionToken with - | token <;> simp [announced, Query.valuesOf]

/-! ### What stands in the URL -/

/-- **Under every name a signed URL has the values of the request and those of the signer.** -/
theorem valuesOf_of_sign (hname : name ≠ "") (h : (sign c).outcome bench = (.ok made, bench')) :
    (bench'.request.uri.parameters.valuesOf name).Perm
      (bench.request.uri.parameters.valuesOf name
        ++ (signerParameters c bench'.request.headers made).valuesOf name) := by
  obtain ⟨q, hquery, hperm⟩ := exists_writtenQuery_of_sign h
  rw [Signable.parameters_of_writtenQuery hquery, Query.valuesOf_filter_ne_empty q hname,
    ← Query.valuesOf_append]
  exact Query.valuesOf_perm hperm name

/-- What this signing says is in the URL, next to what the request had under the same names. -/
structure AnnouncedBeside (c : Config) (validFor : Duration) (made : String)
    (request sent : Request) : Prop where
  beside : ∀ pair ∈ announced c validFor sent.headers made,
    (sent.uri.parameters.valuesOf pair.1).Perm
      (request.uri.parameters.valuesOf pair.1 ++ [pair.2])
  token : (sent.uri.parameters.valuesOf "X-Amz-Security-Token").Perm
    (request.uri.parameters.valuesOf "X-Amz-Security-Token" ++ c.credential.sessionToken.toList)

theorem announcedBeside_of_sign (hplacement : c.manner.placement = .query)
    (hvalid : c.manner.validFor = some validFor)
    (h : (sign c).outcome bench = (.ok made, bench')) :
    AnnouncedBeside c validFor made bench.request bench'.request := by
  obtain ⟨hannounced, htoken⟩ :=
    valuesOf_signerParameters hplacement hvalid bench'.request.headers made
  constructor
  · intro pair hpair
    have hname : pair.1 ≠ "" := by
      have hmem : pair.1 ∈ announcedNames := by
        rw [← map_announced c validFor bench'.request.headers made]
        exact List.mem_map_of_mem hpair
      intro hempty
      rw [hempty] at hmem
      revert hmem
      decide
    rw [← hannounced pair hpair]
    exact valuesOf_of_sign hname h
  · rw [← htoken]
    exact valuesOf_of_sign (by decide) h

/-! ### Announced once -/

/-- A verifier finds what this signing says: each announcement once, and at most one token. -/
structure AnnouncedOnce (c : Config) (validFor : Duration) (made : String) (request : Request) :
    Prop where
  once : ∀ pair ∈ announced c validFor request.headers made,
    request.uri.parameters.valuesOf pair.1 = [pair.2]
  token : (request.uri.parameters.valuesOf "X-Amz-Security-Token").length ≤ 1

/-- A value is alone next to others exactly if there are no others. -/
theorem eq_singleton_iff_of_perm {values others : List String} {value : String}
    (h : values.Perm (others ++ [value])) : values = [value] ↔ others = [] := by
  constructor
  · rintro rfl
    simpa using h.length_eq
  · rintro rfl
    exact List.perm_singleton.mp h

/-- **A signed URL announces its signature once exactly if none was announced in the request**, by
any of the six parameters, and the request and the credential have one token between them at most.
In any case what this signing says stands beside what the request had. -/
theorem announcedOnce_iff {d : Draft} {now : Instant} (hbuild : d.build now = .ok c)
    (hplacement : c.manner.placement = .query)
    (h : (sign c).outcome bench = (.ok made, bench')) :
    ∃ validFor, c.manner.validFor = some validFor ∧
      AnnouncedBeside c validFor made bench.request bench'.request ∧
      (AnnouncedOnce c validFor made bench'.request ↔
        (∀ pair ∈ bench.request.uri.parameters, pair.1 ∉ announcedNames) ∧
        (bench.request.uri.parameters.valuesOf "X-Amz-Security-Token").length
          + c.credential.sessionToken.toList.length ≤ 1) := by
  obtain ⟨validFor, hvalid⟩ := validFor_of_build hbuild hplacement
  have hbeside := announcedBeside_of_sign hplacement hvalid h
  refine ⟨validFor, hvalid, hbeside, ?_⟩
  have htokens : (bench'.request.uri.parameters.valuesOf "X-Amz-Security-Token").length
      = (bench.request.uri.parameters.valuesOf "X-Amz-Security-Token").length
        + c.credential.sessionToken.toList.length := by
    rw [hbeside.token.length_eq, List.length_append]
  have honce : ∀ pair ∈ announced c validFor bench'.request.headers made,
      (bench'.request.uri.parameters.valuesOf pair.1 = [pair.2] ↔
        ∀ old ∈ bench.request.uri.parameters, old.1 ≠ pair.1) := by
    intro pair hpair
    rw [eq_singleton_iff_of_perm (hbeside.beside pair hpair), Query.valuesOf_eq_nil_iff]
  rw [← htokens]
  constructor
  · rintro ⟨hsole, hmost⟩
    refine ⟨fun old hold hname => ?_, hmost⟩
    rw [← map_announced c validFor bench'.request.headers made] at hname
    obtain ⟨pair, hpair, hname⟩ := List.mem_map.mp hname
    exact (honce pair hpair).mp (hsole pair hpair) old hold hname.symm
  · rintro ⟨hnone, hmost⟩
    refine ⟨fun pair hpair => (honce pair hpair).mpr fun old hold hname => ?_, hmost⟩
    apply hnone old hold
    rw [hname, ← map_announced c validFor bench'.request.headers made]
    exact List.mem_map_of_mem hpair

/-- A clean request is announced once. -/
theorem announcedOnce_iff_sharedObject :
    ∃ c made bench' validFor, sharedObject.build (.ofSecond 0) = .ok c ∧
      c.manner.placement = .query ∧
      (sign c).outcome ⟨sharedObjectRequest, none⟩ = (.ok made, bench') ∧
      c.manner.validFor = some validFor ∧ AnnouncedOnce c validFor made bench'.request := by
  obtain ⟨c, hbuild, hplacement, hsign⟩ := exists_build_sharedObject
  obtain ⟨made, bench', h⟩ := @exists_sign_ok _ ⟨sharedObjectRequest, none⟩ hsign
  obtain ⟨validFor, hvalid, -, hiff⟩ := announcedOnce_iff hbuild hplacement h
  have htoken : c.credential.sessionToken.toList.length = 1 := by
    cases hbuild
    rfl
  refine ⟨c, made, bench', validFor, hbuild, hplacement, h, hvalid, hiff.mpr ⟨?_, ?_⟩⟩
  · decide +kernel
  · rw [htoken]
    decide +kernel

/-! ### A URL that was signed before -/

/-- Whoever signs a signed URL again does not announce the signature once. -/
theorem not_announcedOnce_of_sign_twice {second : Config} {bench'' : Bench} {made' : String}
    {validFor' : Duration} (hplacement : c.manner.placement = .query)
    (hvalid : c.manner.validFor = some validFor)
    (h : (sign c).outcome bench = (.ok made, bench'))
    (hplacement' : second.manner.placement = .query)
    (hvalid' : second.manner.validFor = some validFor')
    (h' : (sign second).outcome bench' = (.ok made', bench'')) :
    ¬AnnouncedOnce second validFor' made' bench''.request := by
  intro honce
  have hfirst : bench'.request.uri.parameters.valuesOf "X-Amz-Signature" ≠ [] := by
    have hbeside := (announcedBeside_of_sign hplacement hvalid h).beside
      ("X-Amz-Signature", made) (by simp [announced])
    intro hnil
    rw [hnil] at hbeside
    simpa using hbeside.length_eq
  have hmem : ("X-Amz-Signature", made')
      ∈ announced second validFor' bench''.request.headers made' := by simp [announced]
  have hbeside := (announcedBeside_of_sign hplacement' hvalid' h').beside _ hmem
  exact hfirst ((eq_singleton_iff_of_perm hbeside).mp (honce.once _ hmem))

/-- The request has a point in time, its name with an escape sequence, and a token. -/
def signedBeforeRequest : Request :=
  { sharedObjectRequest with
    uri := { sharedObjectRequest.uri with
      target := some ⟨"/a%20b",
        "X%2DAmz-Date=19691231T235900Z&X-Amz-Security-Token=stale&v=1", by decide⟩ } }

/-- A point in time and a token that came with a request are still there when it was signed, next to
those of this signing. -/
theorem not_announcedOnce_signedBefore :
    ∃ c made bench', sharedObject.build (.ofSecond 0) = .ok c ∧ c.manner.placement = .query ∧
      (sign c).outcome ⟨signedBeforeRequest, none⟩ = (.ok made, bench') ∧
      (bench'.request.uri.parameters.valuesOf "X-Amz-Date").Perm
        ["19691231T235900Z", "19700101T000000Z"] ∧
      (bench'.request.uri.parameters.valuesOf "X-Amz-Security-Token").Perm ["stale", "to/ken"] ∧
      ∀ validFor, ¬AnnouncedOnce c validFor made bench'.request := by
  obtain ⟨c, hbuild, hplacement, hsign⟩ := exists_build_sharedObject
  obtain ⟨made, bench', h⟩ :=
    @exists_sign_ok _ ⟨signedBeforeRequest, none⟩ (hsign.withTarget _ rfl)
  obtain ⟨validFor, hvalid⟩ := validFor_of_build hbuild hplacement
  obtain ⟨hbeside, htoken⟩ := announcedBeside_of_sign hplacement hvalid h
  have hold : signedBeforeRequest.uri.parameters.valuesOf "X-Amz-Date" = ["19691231T235900Z"] ∧
      signedBeforeRequest.uri.parameters.valuesOf "X-Amz-Security-Token" = ["stale"] := by
    decide +kernel
  have hnew : c.date.stampText = "19700101T000000Z" ∧
      c.credential.sessionToken = some "to/ken" := by
    cases hbuild
    decide +kernel
  have hdate := hbeside ("X-Amz-Date", c.date.stampText) (by simp [announced])
  dsimp only at hdate
  rw [hold.1, hnew.1] at hdate
  rw [hold.2, hnew.2] at htoken
  refine ⟨c, made, bench', hbuild, hplacement, h, hdate, htoken, fun validFor' honce => ?_⟩
  have hmost := honce.token
  rw [htoken.length_eq] at hmost
  revert hmost
  decide

end Signing

end AwsSigning
