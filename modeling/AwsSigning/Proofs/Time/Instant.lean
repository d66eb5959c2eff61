/-
AwsSigning/Proofs/Time/Instant.lean

Points in time that are moved more than once.

A move forwards by a second or more leaves a leap second, and from there on
moves are plain additions, so two of them come to one:

    (t.add d).add e  =  t.add (d + e)

Outside of leap seconds a point comes before another one moved by a span
exactly if it lies less than that span behind it (`before_add_iff`).
-/
import AwsSigning.Time.Instant

namespace AwsSigning

/-- The whole seconds of a span forwards are those that have passed by its end. -/
theorem Duration.seconds_spec {d : Duration} (h : 0 ≤ d.nanoseconds) :
    d.seconds * 1000000000 ≤ d.nanoseconds ∧ d.nanoseconds < (d.seconds + 1) * 1000000000 := by
  rw [seconds, Int.tdiv_eq_ediv_of_nonneg h]
  omega

namespace Instant

variable {s t : Instant} {d e : Duration}

theorem add_of_nano_lt (h : t.nano < 1000000000) (d : Duration) :
    t.add d = shifted t.second t.nano d :=
  if_pos h

/-- A point that is reached by plain addition lies outside of leap seconds. -/
theorem nano_shifted_lt (second nanos : Int) (d : Duration) :
    (shifted second nanos d).nano < 1000000000 := by
  simp only [shifted, Int.fmod_eq_emod_of_nonneg _ (show (0 : Int) ≤ 1000000000 by decide)]
  omega

theorem add_shifted (second nanos : Int) (d e : Duration) :
    (shifted second nanos d).add e = shifted second nanos ⟨d.nanoseconds + e.nanoseconds⟩ := by
  rw [add_of_nano_lt (nano_shifted_lt second nanos d)]
  have htotal : (shifted second nanos d).second * 1000000000 + (shifted second nanos d).nano
      = second * 1000000000 + nanos + d.nanoseconds := by
    simp only [shifted, Int.fmod_eq_emod_of_nonneg _ (show (0 : Int) ≤ 1000000000 by decide),
      Int.fdiv_eq_ediv_of_nonneg _ (show (0 : Int) ≤ 1000000000 by decide)]
    omega
  rw [shifted, htotal, Int.add_assoc, ← shifted]

/-- **Two moves come to one**, if the point is past its second after the first of them and after
both. -/
theorem add_add (hd : 0 < d.seconds)
    (hde : 0 < (Duration.mk (d.nanoseconds + e.nanoseconds)).seconds) :
    (t.add d).add e = t.add ⟨d.nanoseconds + e.nanoseconds⟩ := by
  by_cases hnano : t.nano < 1000000000
  · rw [add_of_nano_lt hnano, add_of_nano_lt hnano, add_shifted]
  · have hleave : ∀ {d : Duration}, 0 < d.seconds →
        t.add d = shifted t.second (t.nano - 1000000000) d := by
      intro d hd
      simp [add, hnano, hd]
    rw [hleave hd, hleave hde, add_shifted]

/-- A point comes before itself moved forwards by a second or more, leap second or not. -/
theorem before_add (hd : 0 < d.seconds) : t.before (t.add d) = true := by
  have hspan : 1000000000 ≤ d.nanoseconds := by
    rw [Duration.seconds, Int.tdiv_eq_ediv] at hd
    split at hd
    · omega
    · simp only [show Int.sign 1000000000 = 1 from rfl] at hd
      omega
  -- the move leaves the second of the point, wherever in it the point lies
  have hshifted : ∀ nanos : Int, 0 ≤ nanos → t.second < (shifted t.second nanos d).second := by
    intro nanos hnanos
    simp only [shifted, Int.fdiv_eq_ediv_of_nonneg _ (show (0 : Int) ≤ 1000000000 by decide)]
    omega
  have hlater : t.second < (t.add d).second := by
    by_cases hnano : t.nano < 1000000000
    · rw [add_of_nano_lt hnano]
      exact hshifted t.nano (by omega)
    · rw [add, if_neg hnano, if_pos (by simp [hd])]
      exact hshifted (t.nano - 1000000000) (by omega)
  simp only [before, atMost, Bool.not_eq_true', Bool.or_eq_false_iff, Bool.and_eq_false_iff,
    decide_eq_false_iff_not]
  omega

/-- How long after a point another one is, if the seconds are counted. -/
def since (t s : Instant) : Duration :=
  ⟨(t.second - s.second) * 1000000000 + ((t.nano : Int) - s.nano)⟩

/-- **Outside of leap seconds a point comes before another one that is moved if it lies less than
the move behind it.** -/
theorem before_add_iff (ht : t.nano < 1000000000) (hs : s.nano < 1000000000) (d : Duration) :
    t.before (s.add d) = true ↔ (t.since s).nanoseconds < d.nanoseconds := by
  rw [add_of_nano_lt hs]
  simp only [before, atMost, shifted, since,
    Int.fmod_eq_emod_of_nonneg _ (show (0 : Int) ≤ 1000000000 by decide),
    Int.fdiv_eq_ediv_of_nonneg _ (show (0 : Int) ≤ 1000000000 by decide),
    Bool.not_eq_true', Bool.or_eq_false_iff, Bool.and_eq_false_iff, decide_eq_false_iff_not]
  omega

end Instant

end AwsSigning
