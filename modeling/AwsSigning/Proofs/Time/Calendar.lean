/-
AwsSigning/Proofs/Time/Calendar.lean

The date can be read off the written point in time: it stands before the `T`,
and it is written with digits and signs alone, also for years that have more
than four digits.
-/
import AwsSigning.Proofs.Text.Split
import AwsSigning.Time.Calendar

namespace AwsSigning

/-! ### Characters of written numbers -/

/-- A padded number is written with digits. -/
theorem isDigit_of_mem_padded {width n : Nat} {c : Char} (h : c ∈ (padded width n).toList) :
    c.isDigit = true := by
  rw [padded, String.toList_append, String.toList_ofList, List.mem_append] at h
  rcases h with hzero | hdigit
  · rw [(List.mem_replicate.mp hzero).2]
    decide
  · exact Nat.isDigit_of_mem_toDigits (b := 10) (by decide) (by decide) (by simpa using hdigit)

/-- A year is written with digits, perhaps behind a sign. -/
theorem char_of_mem_yearText {year : Int} {c : Char} (h : c ∈ (yearText year).toList) :
    c.isDigit = true ∨ c = '-' ∨ c = '+' := by
  unfold yearText at h
  split at h
  · exact .inl (isDigit_of_mem_padded h)
  · -- a year that has not four digits has a sign
    split at h
    all_goals
      rw [String.toList_append, List.mem_append] at h
      rcases h with hsign | hnumber
      · simp_all
      · exact .inl (isDigit_of_mem_padded hnumber)

namespace Instant

/-- What is no digit is not in a padded number. -/
theorem not_mem_padded {mark : Char} (hdigit : mark.isDigit = false) (width n : Nat) :
    mark ∉ (padded width n).toList := by
  intro hmem
  rw [isDigit_of_mem_padded hmem] at hdigit
  cases hdigit

/-- What is no digit and no sign is not in a date. -/
theorem not_mem_dateText {mark : Char} (hdigit : mark.isDigit = false)
    (hsign : mark ≠ '-' ∧ mark ≠ '+') (t : Instant) : mark ∉ t.dateText.toList := by
  have hpadded : ∀ width n, mark ∉ (padded width n).toList := not_mem_padded hdigit
  have hyear : mark ∉ (yearText t.date.year).toList := by
    intro hmem
    rcases char_of_mem_yearText hmem with h | h | h
    · rw [h] at hdigit
      cases hdigit
    · exact hsign.1 h
    · exact hsign.2 h
  simp only [dateText, String.toList_append, List.mem_append, not_or]
  exact ⟨⟨hyear, hpadded _ _⟩, hpadded _ _⟩

/-- There is no space in a written point in time. -/
theorem space_not_mem_stampText (t : Instant) : ' ' ∉ t.stampText.toList := by
  have hpadded : ∀ width n, ' ' ∉ (padded width n).toList := not_mem_padded (by decide)
  have hdate : ' ' ∉ t.dateText.toList := not_mem_dateText (by decide) (by decide) t
  simp [stampText, hdate, hpadded]

/-- **The date stands before the `T`** of the written point in time. -/
theorem splitFirst?_stampText (t : Instant) :
    ∃ rest, Text.splitFirst? 'T' t.stampText.toList = some (t.dateText.toList, rest) := by
  refine ⟨(padded 2 t.hour ++ padded 2 t.minute ++ padded 2 t.secondOfMinute ++ "Z").toList, ?_⟩
  have hstamp : t.stampText.toList = t.dateText.toList ++ 'T'
      :: (padded 2 t.hour ++ padded 2 t.minute ++ padded 2 t.secondOfMinute ++ "Z").toList := by
    simp [stampText]
  rw [hstamp]
  exact Text.splitFirst?_append (not_mem_dateText (by decide) (by decide) t)

end Instant

end AwsSigning
