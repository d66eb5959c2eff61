/-
AwsSigning/Proofs/Signing/Validity.lean

How long a signed URL says that it is good for.

A draft for a signature in the query is accepted if it is to be good for any
time at all, be it a nanosecond (`exists_build_iff`).  The URL says so in
whole seconds, and what goes beyond them is cut off:

    announced  ≤  validity  <  announced + 1 s

So a URL never claims more than it was given, and it announces that it is good
for no time exactly if it was given less than a second
(`validity_announced_of_build`).
-/
import AwsSigning.Proofs.Signing.Presigning
import AwsSigning.Proofs.Time.Instant

namespace AwsSigning.Signing

variable {d : Draft} {now : Instant} {c : Config} {m : Manner} {validFor : Duration}
  {bench bench' : Bench} {made text : String}

/-! ### Which drafts are accepted -/

/-- Everything is there that any signature needs. -/
structure Draft.IsComplete (d : Draft) : Prop where
  region : ∃ region, d.region = some region ∧ Text.isBlankText region.toList = false
  service : ∃ service, d.service = some service ∧ Text.isBlankText service.toList = false
  credential : ∃ credential, d.credential = some credential

theorem required_eq_ok_iff {fault : SigningFault} {text? : Option String} :
    required fault text? = .ok text ↔ text? = some text ∧ Text.isBlankText text.toList = false := by
  unfold required
  rcases text? with - | given
  · simp
  · dsimp only
    split
    · next hblank =>
      constructor
      · rintro ⟨⟩
      · rintro ⟨⟨⟩, hvisible⟩
        cases hblank.symm.trans hvisible
    · next hvisible =>
      constructor
      · rintro ⟨⟩
        exact ⟨rfl, Bool.eq_false_iff.mpr hvisible⟩
      · rintro ⟨⟨⟩, -⟩
        rfl

/-- The validity is the one thing that is asked of a signature in the query. -/
theorem check_of_query (h : m.placement = .query) : m.check =
    if ∃ validFor, m.validFor = some validFor ∧ 0 < validFor.nanoseconds then .ok ()
    else .error (.signing .expiryMissing) := by
  unfold Manner.check
  rw [h]
  rcases m.validFor with - | validFor
  · simp
  · simp

/-- All that is left to fail behind a complete draft is the check of its manner. -/
theorem build_of_isComplete (h : d.IsComplete) (now : Instant) :
    ∃ c, c.manner = d.manner ∧ d.build now = d.manner.check.map fun _ => c := by
  obtain ⟨region, hregion⟩ := h.region
  obtain ⟨service, hservice⟩ := h.service
  obtain ⟨credential, hcredential⟩ := h.credential
  refine ⟨⟨region, service, credential, d.date.getD now, d.payload.getD .unsigned, d.manner⟩, rfl,
    ?_⟩
  rw [Draft.build, required_eq_ok_iff.mpr hregion, required_eq_ok_iff.mpr hservice, hcredential]
  rcases d.manner.check with e | ⟨⟩ <;> rfl

theorem isComplete_of_build (h : d.build now = .ok c) : d.IsComplete := by
  obtain ⟨region, hregion, h⟩ := bind_eq_ok_iff.mp h
  obtain ⟨service, hservice, h⟩ := bind_eq_ok_iff.mp h
  refine ⟨⟨region, required_eq_ok_iff.mp hregion⟩, ⟨service, required_eq_ok_iff.mp hservice⟩, ?_⟩
  dsimp only at h
  split at h
  · next credential hcredential => exact ⟨credential, hcredential⟩
  · cases h

/-- **A draft for a signature in the query is accepted exactly if it is complete and good for any
time at all.** -/
theorem exists_build_iff (h : d.manner.placement = .query) (now : Instant) :
    (∃ c, d.build now = .ok c) ↔
      d.IsComplete ∧ ∃ validFor, d.manner.validFor = some validFor ∧ 0 < validFor.nanoseconds := by
  constructor
  · rintro ⟨c, hbuild⟩
    obtain ⟨-, hcheck⟩ := manner_of_build hbuild
    rw [check_of_query h] at hcheck
    split at hcheck
    · next hvalid => exact ⟨isComplete_of_build hbuild, hvalid⟩
    · cases hcheck
  · rintro ⟨hcomplete, hvalid⟩
    obtain ⟨c, -, hbuild⟩ := build_of_isComplete hcomplete now
    rw [check_of_query h, if_pos hvalid] at hbuild
    exact ⟨c, hbuild⟩

/-- A complete draft that is good for no time is refused for that reason. -/
theorem build_of_not_valid (h : d.manner.placement = .query) (hcomplete : d.IsComplete)
    (hvalid : ∀ validFor, d.manner.validFor = some validFor → validFor.nanoseconds ≤ 0)
    (now : Instant) : d.build now = .error (.signing .expiryMissing) := by
  obtain ⟨c, -, hbuild⟩ := build_of_isComplete hcomplete now
  rw [hbuild, check_of_query h, if_neg]
  · rfl
  · rintro ⟨validFor, hsome, hpositive⟩
    exact absurd (hvalid validFor hsome) (Int.not_le_of_gt hpositive)

/-! ### What is announced -/

variable {request : Request}

/-- How long a signature is good for keeps no request from being signed. -/
theorem CanSign.withValidFor (h : CanSign c request) (validFor? : Option Duration) :
    CanSign { c with manner := { c.manner with validFor := validFor? } } request where
  algorithm := h.algorithm
  star := h.star
  path := h.path
  fields := h.fields
  scope := h.scope
  token := h.token

/-- The whole seconds that a URL announces next to what the request had under that name. -/
theorem exists_announced_of_sign (hplacement : c.manner.placement = .query)
    (hvalid : c.manner.validFor = some validFor) (hpositive : 0 < validFor.nanoseconds)
    (h : (sign c).outcome bench = (.ok made, bench')) :
    ∃ n : Nat, (bench'.request.uri.parameters.valuesOf "X-Amz-Expires").Perm
        (bench.request.uri.parameters.valuesOf "X-Amz-Expires" ++ [toString n]) ∧
      n * 1000000000 ≤ validFor.nanoseconds ∧
      validFor.nanoseconds < (n + 1) * 1000000000 := by
  obtain ⟨hleast, hmost⟩ := Duration.seconds_spec (Int.le_of_lt hpositive)
  have hnonneg : 0 ≤ validFor.seconds := by omega
  obtain ⟨n, hn⟩ := Int.eq_ofNat_of_zero_le hnonneg
  have hbeside := (announcedBeside_of_sign hplacement hvalid h).beside
    ("X-Amz-Expires", toString validFor.seconds) (by simp [announced])
  rw [hn] at hleast hmost hbeside
  exact ⟨n, hbeside, hleast, hmost⟩

/-- **A URL announces the whole seconds for which it is good, and so no time at all if it is good
for less than a second.**  A draft for a signature in the query is accepted if it is good for any
time at all and refused otherwise; whatever is signed with it announces the seconds rounded down,
and they are one at least exactly if a full second was given. -/
theorem validity_announced_of_build (hplacement : d.manner.placement = .query) (now : Instant) :
    ((∃ c, d.build now = .ok c) ↔
      d.IsComplete ∧ ∃ validFor, d.manner.validFor = some validFor ∧ 0 < validFor.nanoseconds) ∧
    (d.IsComplete →
      (∀ validFor, d.manner.validFor = some validFor → validFor.nanoseconds ≤ 0) →
      d.build now = .error (.signing .expiryMissing)) ∧
    ∀ c validFor, d.build now = .ok c → d.manner.validFor = some validFor →
      ∀ bench made bench', (sign c).outcome bench = (.ok made, bench') →
        ∃ n : Nat, (bench'.request.uri.parameters.valuesOf "X-Amz-Expires").Perm
            (bench.request.uri.parameters.valuesOf "X-Amz-Expires" ++ [toString n]) ∧
          n * 1000000000 ≤ validFor.nanoseconds ∧
          validFor.nanoseconds < (n + 1) * 1000000000 ∧
          (1 ≤ n ↔ 1000000000 ≤ validFor.nanoseconds) := by
  refine ⟨exists_build_iff hplacement now, fun hcomplete hvalid => ?_, ?_⟩
  · exact build_of_not_valid hplacement hcomplete hvalid now
  · intro c validFor hbuild hsome bench made bench' hsign
    obtain ⟨hmanner, -⟩ := manner_of_build hbuild
    obtain ⟨-, accepted, haccepted, hpositive⟩ := (exists_build_iff hplacement now).mp ⟨c, hbuild⟩
    cases hsome.symm.trans haccepted
    rw [← hmanner] at hplacement hsome
    obtain ⟨n, hperm, hleast, hmost⟩ :=
      exists_announced_of_sign hplacement hsome hpositive hsign
    exact ⟨n, hperm, hleast, hmost, by omega⟩

/-- The shared object, good for some other time. -/
def sharedFor (validFor : Duration) : Draft :=
  { sharedObject with manner := { sharedObject.manner with validFor := some validFor } }

/-- If it is good for any time at all, then it can be signed. -/
theorem exists_sign_sharedFor (h : 0 < validFor.nanoseconds) :
    ∃ c made bench', (sharedFor validFor).build (.ofSecond 0) = .ok c ∧
      (sign c).outcome ⟨sharedObjectRequest, none⟩ = (.ok made, bench') := by
  have hcheck : (sharedFor validFor).manner.check = .ok () := if_pos h
  obtain ⟨c, hbuild, -, hsign⟩ := exists_build_sharedObject
  cases hbuild
  obtain ⟨made, bench', hsign⟩ :=
    @exists_sign_ok _ ⟨sharedObjectRequest, none⟩ (hsign.withValidFor (some validFor))
  refine ⟨_, made, bench', ?_, hsign⟩
  rw [Draft.build, hcheck]
  rfl

/-- A second and a half is announced as one second. -/
theorem validity_announced_of_build_secondAndHalf :
    ∃ c made bench', (sharedFor (.ofMilliseconds 1500)).build (.ofSecond 0) = .ok c ∧
      (sign c).outcome ⟨sharedObjectRequest, none⟩ = (.ok made, bench') ∧
      bench'.request.uri.parameters.valuesOf "X-Amz-Expires" = ["1"] := by
  obtain ⟨c, made, bench', hbuild, hsign⟩ :=
    exists_sign_sharedFor (show 0 < (Duration.ofMilliseconds 1500).nanoseconds by decide)
  obtain ⟨-, -, hannounced⟩ :=
    validity_announced_of_build (d := sharedFor (.ofMilliseconds 1500)) rfl (.ofSecond 0)
  obtain ⟨n, hperm, hleast, hmost, -⟩ :=
    hannounced c (.ofMilliseconds 1500) hbuild rfl _ made bench' hsign
  have hone : n = 1 := by
    have hvalid : (Duration.ofMilliseconds 1500).nanoseconds = 1500000000 := rfl
    omega
  have hfree : sharedObjectRequest.uri.parameters.valuesOf "X-Amz-Expires" = [] := by
    decide +kernel
  subst hone
  rw [hfree] at hperm
  exact ⟨c, made, bench', hbuild, hsign, List.perm_singleton.mp hperm⟩

/-- Half a second is accepted and announced as no time: the value of the parameter is the text of
no number that is one or more. -/
theorem not_positive_halfSecond :
    ∃ c made bench', (sharedFor (.ofMilliseconds 500)).build (.ofSecond 0) = .ok c ∧
      c.manner.placement = .query ∧
      (sign c).outcome ⟨sharedObjectRequest, none⟩ = (.ok made, bench') ∧
      bench'.request.uri.parameters.valuesOf "X-Amz-Expires" = ["0"] ∧
      ¬∃ n : Nat, 1 ≤ n ∧
        toString n ∈ bench'.request.uri.parameters.valuesOf "X-Amz-Expires" := by
  have hpositive : 0 < (Duration.ofMilliseconds 500).nanoseconds := by decide
  obtain ⟨c, made, bench', hbuild, hsign⟩ := exists_sign_sharedFor hpositive
  obtain ⟨hmanner, -⟩ := manner_of_build hbuild
  have hplacement : c.manner.placement = .query := by rw [hmanner]; rfl
  have hvalid : c.manner.validFor = some (.ofMilliseconds 500) := by rw [hmanner]; rfl
  obtain ⟨n, hperm, hleast, -⟩ := exists_announced_of_sign hplacement hvalid hpositive hsign
  have hzero : n = 0 := by
    have hnano : (Duration.ofMilliseconds 500).nanoseconds = 500000000 := rfl
    omega
  have hfree : sharedObjectRequest.uri.parameters.valuesOf "X-Amz-Expires" = [] := by
    decide +kernel
  subst hzero
  rw [hfree] at hperm
  have hvalues := List.perm_singleton.mp hperm
  refine ⟨c, made, bench', hbuild, hplacement, hsign, hvalues, ?_⟩
  rintro ⟨n, hn, hmem⟩
  rw [hvalues, List.mem_singleton] at hmem
  -- the digits of a number give the number back
  have hdigits := congrArg (fun text : String => Nat.ofDigitChars 10 text.toList 0) hmem
  simp only [Nat.toString_eq_repr, Nat.toList_repr,
    Nat.ofDigitChars_toDigits (show 1 < 10 by decide) (show 10 ≤ 10 by decide)] at hdigits
  omega

end AwsSigning.Signing
