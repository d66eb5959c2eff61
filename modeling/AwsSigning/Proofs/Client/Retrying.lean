/-
AwsSigning/Proofs/Client/Retrying.lean

How the clients that are resolved try again.

A text never spells fewer attempts than one, nor a manner of trying again that
is not there to be had; the defaults do not either, and the number that a
client fixes is checked before anything else.  So every client that is resolved
makes at least one attempt.  The manner that a client fixes is not checked, and
this is the only way to a client that tries again in the adaptive manner
(`attempts_pos_and_adaptive_iff`).

What is refused is refused for a reason of its own wherever the text stands:
too few attempts as out of range, and the adaptive manner as not implemented.
Only numbers too far below one to be read are taken for no numbers.
-/
import AwsSigning.Proofs.Client.Misspelling
import AwsSigning.Proofs.Retry.Attempts

namespace AwsSigning

open Operation

variable {κ : Type} {p : Platform} {config : SharedConfig} {profile : Section} {text : String}
  {n : Int}

/-! ### Texts -/

namespace Attempts

/-- **No text spells fewer attempts than one.** -/
theorem pos_of_read {count : Nat} (h : read text = .ok count) : 1 ≤ count := by
  obtain ⟨-, hleast, -⟩ := read_eq_ok_iff.mp h
  exact Int.ofNat_le.mp hleast

/-- How a number below one is refused: as out of range, if it can be read at all. -/
def refusal (n : Int) : ErrorKind :=
  if -0x8000000000000000 ≤ n then .valueOutOfRange else .configInvalid

/-- **An integer below one is refused**, and whether it can be read at all tells how. -/
theorem exists_error_of_integer (hn : integer? (Text.trim text.toList) = some n) (hlt : n < 1) :
    Refuses text (refusal n) := by
  have hspells : Spells text n := integer?_trim_eq_some_iff.mp hn
  rw [refusal]
  split
  · next hlow =>
    have hhigh : n < 0x8000000000000000 := by omega
    exact refuses_of_fits64 hspells ⟨hlow, hhigh⟩ fun hcount => absurd hlt (Int.not_lt.mpr hcount.1)
  · next hlow =>
    refine refuses_of_not_fits64 fun m hm hfits => hlow ?_
    rw [hspells.unique hm]
    exact hfits.1

end Attempts

namespace RetryMode

/-- The word of the adaptive mode, in any letters. -/
def SpellsAdaptive (text : String) : Prop := ofWord? (Setting.plain text) = some adaptive

/-- Texts of the setting are read as modes. -/
theorem read_setting : Setting.retryMode.read = read := by rw [Setting.retryMode]

/-- **No text spells the adaptive mode so that it can be had.** -/
theorem ne_adaptive_of_read {mode : RetryMode} (h : Setting.retryMode.read text = .ok mode) :
    mode ≠ adaptive := by
  rintro rfl
  rw [read_setting, read] at h
  split at h
  · cases h
  · next hne _ =>
    cases h
    exact hne rfl
  · cases h

theorem read_of_spellsAdaptive (h : SpellsAdaptive text) :
    Setting.retryMode.read text = .error (.setting .adaptiveRetry) := by
  unfold SpellsAdaptive at h
  rw [read_setting, read, h]

end RetryMode

/-! ### Clients -/

namespace ClientConfig

variable {c : ClientConfig}

/-- The client is not resolved, for a reason of this kind. -/
def FailsWith (κ : Type) (c : ClientConfig) (serviceId : String) (p : Platform)
    (kind : ErrorKind) : Prop :=
  ∃ e, ((c.resolve (κ := κ) serviceId).outcome p).1 = .error e ∧ e.kind = kind

/-- Whatever is looked up before the way of trying again is found. -/
structure FindsRegion (c : ClientConfig) (p : Platform) (config : SharedConfig) : Prop where
  attempts : c.maxAttempts ≠ some 0
  region : ∃ loaded region after,
    (SharedConfig.load c.profile).outcome p = (.ok config, loaded) ∧
    (c.resolveRegion config.activeProfile).outcome loaded = (.ok region, after)

/-- A number of attempts that is fixed as zero is refused before anything is looked up. -/
theorem failsWith_of_fixed_zero (h : c.maxAttempts = some 0) (serviceId : String) (p : Platform) :
    c.FailsWith κ serviceId p .valueOutOfRange := by
  refine ⟨(Error.setting (.attemptsTooFew 0)).within "source: client config", ?_, rfl⟩
  rw [resolve, outcome_bind, outcome_ofExcept, checkAttempts, if_pos h]

/-- Behind the region a failure to find out how to try again is a failure of the client. -/
theorem FindsRegion.failsWith (h : c.FindsRegion p config) {e : Error}
    (hretry : c.resolveRetry p config.activeProfile = .error e) (serviceId : String) :
    c.FailsWith κ serviceId p e.kind := by
  obtain ⟨loaded, region, after, hload, hregion⟩ := h.region
  have hattempts : c.checkAttempts = .ok () := if_neg h.attempts
  refine ⟨e, ?_, rfl⟩
  rw [outcome_resolve_of_region hattempts hload hregion, hretry]
  rfl

/-- The number of attempts is found out before the manner. -/
theorem resolveRetry_of_attempts {e : Error}
    (h : Setting.maxAttempts.resolve p (some profile) = .error e) :
    c.resolveRetry p profile = .error e := by
  rw [resolveRetry_eq_bind, h]
  rfl

theorem resolveRetry_of_mode {attempts? : Option Nat} {e : Error}
    (hattempts : Setting.maxAttempts.resolve p (some profile) = .ok attempts?)
    (h : Setting.retryMode.resolve p (some profile) = .error e) :
    c.resolveRetry p profile = .error e := by
  rw [resolveRetry_eq_bind, hattempts, h]
  rfl

/-- What a client knows about trying again: one attempt at least, unless it fixes none, and the
adaptive manner only if it fixes that. -/
theorem attempts_pos_of_resolveRetry {retry : RetryOptions}
    (h : c.resolveRetry p profile = .ok retry) (hfixed : c.maxAttempts ≠ some 0) :
    1 ≤ retry.maxAttempts ∧ (retry.mode = .adaptive ↔ c.retryMode = some .adaptive) := by
  obtain ⟨attempts?, mode?, hattempts, hmode, rfl⟩ := resolveRetry_eq_ok_iff.mp h
  constructor
  · -- a number that the client fixes goes before what was looked up, and was checked
    rcases hcount : c.maxAttempts with - | count
    · rcases attempts? with - | count
      · show 1 ≤ 3
        decide
      · show 1 ≤ count
        obtain hdefault | ⟨text, hread⟩ := Setting.exists_read_of_resolve hattempts
        · cases hdefault
        · exact Attempts.pos_of_read hread
    · rw [hcount] at hfixed
      exact Nat.one_le_iff_ne_zero.mpr fun hzero => hfixed (congrArg some hzero)
  · -- a manner that the client fixes goes before what was looked up, and was not checked
    rcases hfixedMode : c.retryMode with - | mode
    · refine iff_of_false ?_ (by rintro ⟨⟩)
      rcases mode? with - | mode
      · show RetryMode.standard ≠ .adaptive
        decide
      · show mode ≠ .adaptive
        obtain hdefault | ⟨text, hread⟩ := Setting.exists_read_of_resolve hmode
        · cases hdefault
        · exact RetryMode.ne_adaptive_of_read hread
    · simp

/-- **A client that is resolved makes at least one attempt, and it tries again in the adaptive
manner only if it fixes that itself.**  No number of attempts below one gets that far, and neither
does a text for the adaptive manner: a number that is fixed as zero is refused at once, and a text
in the place that decides is refused as soon as the region is found, each for a reason that tells
what is wrong. -/
theorem attempts_pos_and_adaptive_iff (c : ClientConfig) (p : Platform) (serviceId : String) :
    (∀ resolved : ResolvedConfig κ, ((c.resolve serviceId).outcome p).1 = .ok resolved →
      1 ≤ resolved.retry.maxAttempts ∧
        (resolved.retry.mode = .adaptive ↔ c.retryMode = some .adaptive)) ∧
    (c.maxAttempts = some 0 → c.FailsWith κ serviceId p .valueOutOfRange) ∧
    ∀ config, c.FindsRegion p config →
      (∀ place text n, Setting.maxAttempts.Decides p (some config.activeProfile) place text →
        Attempts.integer? (Text.trim text.toList) = some n → n < 1 →
        c.FailsWith κ serviceId p (Attempts.refusal n)) ∧
      (∀ place text, Setting.retryMode.Decides p (some config.activeProfile) place text →
        RetryMode.SpellsAdaptive text →
        ¬Setting.maxAttempts.Misspelt p (some config.activeProfile) →
        c.FailsWith κ serviceId p .unimplemented) := by
  refine ⟨fun resolved h => ?_, fun h => failsWith_of_fixed_zero h serviceId p, fun config h => ?_⟩
  · obtain ⟨hattempts, config, loaded, -, -, hretry, -⟩ := exists_of_resolve (Prod.ext h rfl)
    refine attempts_pos_of_resolveRetry hretry fun hzero => ?_
    rw [checkAttempts, if_pos hzero] at hattempts
    cases hattempts
  refine ⟨fun place text n hdecides hn hlt => ?_, fun place text hdecides hadaptive hread => ?_⟩
  · obtain ⟨e, hread, hkind⟩ := Attempts.exists_error_of_integer hn hlt
    obtain ⟨e', hfailed, hkind'⟩ := hdecides.exists_error hread
    rw [← hkind, ← hkind']
    exact h.failsWith (resolveRetry_of_attempts hfailed) serviceId
  · obtain ⟨attempts?, hattempts⟩ := Setting.exists_resolve_of_not_misspelt hread
    obtain ⟨e, hfailed, hkind⟩ := hdecides.exists_error (RetryMode.read_of_spellsAdaptive hadaptive)
    have hfails := h.failsWith (κ := κ) (resolveRetry_of_mode hattempts hfailed) serviceId
    rwa [hkind] at hfails

/-! ### Variables about trying again -/

/-- A client of a fixed region. -/
def abroad : ClientConfig := { region := some "eu-west-1" }

theorem findsRegion_zero :
    abroad.FindsRegion (variablePlatform "AWS_MAX_ATTEMPTS" "0") bareConfig :=
  ⟨by decide, _, _, _, rfl, rfl⟩

theorem findsRegion_adaptive :
    abroad.FindsRegion (variablePlatform "AWS_RETRY_MODE" "Adaptive") bareConfig :=
  ⟨by decide, _, _, _, rfl, rfl⟩

/-- A variable that says `0` and one that says `Adaptive` are refused, each in its way. -/
theorem attempts_pos_and_adaptive_iff_variables :
    abroad.FailsWith (Nowhere Credential) "s3" (variablePlatform "AWS_MAX_ATTEMPTS" "0")
      .valueOutOfRange ∧
    abroad.FailsWith (Nowhere Credential) "s3" (variablePlatform "AWS_RETRY_MODE" "Adaptive")
      .unimplemented := by
  obtain ⟨-, -, hzero⟩ := attempts_pos_and_adaptive_iff (κ := Nowhere Credential) abroad
    (variablePlatform "AWS_MAX_ATTEMPTS" "0") "s3"
  obtain ⟨-, -, hadaptive⟩ := attempts_pos_and_adaptive_iff (κ := Nowhere Credential) abroad
    (variablePlatform "AWS_RETRY_MODE" "Adaptive") "s3"
  constructor
  · have hdecides : Setting.maxAttempts.Decides (variablePlatform "AWS_MAX_ATTEMPTS" "0")
        (some bareConfig.activeProfile) .environment "0" := Setting.decides_environment rfl rfl
    exact (hzero bareConfig findsRegion_zero).1 _ _ 0 hdecides rfl Int.zero_lt_one
  · have hdecides : Setting.retryMode.Decides (variablePlatform "AWS_RETRY_MODE" "Adaptive")
        (some bareConfig.activeProfile) .environment "Adaptive" :=
      Setting.decides_environment rfl rfl
    refine (hadaptive bareConfig findsRegion_adaptive).2 _ _ hdecides rfl fun hmisspelt => ?_
    exact hmisspelt.resolve_ne_ok none rfl

/-- A client that fixes the adaptive manner is resolved, and a number far below one is taken for
none. -/
theorem exists_resolved_adaptive :
    (∃ resolved : ResolvedConfig (Nowhere Credential),
      (({ abroad with retryMode := some .adaptive }.resolve "s3").outcome
        (variablePlatform "AWS_RETRY_MODE" "standard")).1 = .ok resolved ∧
      resolved.retry.mode = .adaptive) ∧
    Attempts.integer? "-9223372036854775809".toList = some (-9223372036854775809) ∧
    abroad.FailsWith (Nowhere Credential) "s3"
      (variablePlatform "AWS_MAX_ATTEMPTS" "-9223372036854775809") .configInvalid :=
  ⟨⟨_, rfl, rfl⟩, by decide, _, rfl, rfl⟩

end ClientConfig

end AwsSigning
