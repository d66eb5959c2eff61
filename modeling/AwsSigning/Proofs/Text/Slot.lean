/-
AwsSigning/Proofs/Text/Slot.lean

One line of a text, to be written in different ways.

A *slot* is a text with the place of one line left open (`Slot`).  Whatever is
put in there becomes one line, and the lines above and below are the same for
all that is put in (`Slot.exists_lines_fill`).  Every line of every text stands
in such a place (`exists_fill_eq`), so to write a line of a file in two ways is
to fill one slot twice.
-/
import AwsSigning.Proofs.Text.Blank

namespace AwsSigning.Text

variable {s : List Char}

/-- A text without one of its lines. -/
structure Slot where
  before : List Char
  after : List Char
  /-- The line starts where the text does, or behind a line feed. -/
  opens : before = [] ∨ ∃ above, before = above ++ ['\n']
  /-- It ends where the text does, or where a line ending is. -/
  closes : after = [] ∨ ∃ below, after = '\n' :: below ∨ after = '\r' :: '\n' :: below

namespace Slot

/-- The text with a line put in. -/
def fill (slot : Slot) (line : List Char) : List Char := slot.before ++ line ++ slot.after

/-- The lines above the open place. -/
def above (slot : Slot) : List (List Char) := lines slot.before

theorem lines_before (slot : Slot) (rest : List Char) :
    lines (slot.before ++ rest) = slot.above ++ lines rest := by
  rcases slot.opens with hnil | ⟨front, hfront⟩
  · rw [above, hnil]
    rfl
  · have habove : slot.above = (splitWhen (· = '\n') front).map dropLineEnd ++ lines [] := by
      rw [above, hfront]
      exact lines_append_newline front []
    rw [hfront, List.append_assoc, List.singleton_append, lines_append_newline, habove]
    congr 1
    exact (List.append_nil _).symm

/-- The lines below it.  If the line ending is a line feed alone, a carriage return at the end of
the line is taken for a part of it. -/
theorem exists_lines_after (slot : Slot) : ∃ below, ∃ cut ∈ [id, dropLineEnd],
    ∀ line : List Char, line ≠ [] → '\n' ∉ line →
      lines (line ++ slot.after) = cut line :: below := by
  rcases slot.closes with hnil | ⟨below, hbelow | hbelow⟩
  · refine ⟨[], id, by simp, fun line hne hline => ?_⟩
    rw [hnil, List.append_nil, lines, splitWhen_of_not_mem hline, linesOfPieces, if_neg hne]
    rfl
  · refine ⟨lines below, dropLineEnd, by simp, fun line hne hline => ?_⟩
    rw [hbelow, lines_append_newline, splitWhen_of_not_mem hline]
    rfl
  · refine ⟨lines below, id, by simp, fun line hne hline => ?_⟩
    have hwhole : '\n' ∉ line ++ ['\r'] := by simp [hline]
    have hsplit : line ++ '\r' :: '\n' :: below = (line ++ ['\r']) ++ '\n' :: below := by simp
    rw [hbelow, hsplit, lines_append_newline, splitWhen_of_not_mem hwhole, List.map_singleton,
      dropLineEnd_append_return]
    rfl

/-- What may be cut off a line comes from its end. -/
theorem cut_append_cons {cut : List Char → List Char} (hcut : cut ∈ [id, dropLineEnd]) {c : Char}
    (hc : c ≠ '\r') (front back : List Char) :
    cut (front ++ c :: back) = front ++ c :: cut back := by
  have hcases : cut = id ∨ cut = dropLineEnd := by simpa using hcut
  rcases hcases with rfl | rfl
  · rfl
  · exact dropLineEnd_append_cons hc front back

theorem mem_of_mem_cut {cut : List Char → List Char} (hcut : cut ∈ [id, dropLineEnd]) {c : Char}
    (h : c ∈ cut s) : c ∈ s := by
  have hcases : cut = id ∨ cut = dropLineEnd := by simpa using hcut
  rcases hcases with rfl | rfl
  · exact h
  · exact mem_of_mem_dropLineEnd h

/-- **What is put in becomes one line**, between the same lines whatever it is. -/
theorem exists_lines_fill (slot : Slot) : ∃ below, ∃ cut ∈ [id, dropLineEnd],
    ∀ line : List Char, line ≠ [] → '\n' ∉ line →
      lines (slot.fill line) = slot.above ++ cut line :: below := by
  obtain ⟨below, cut, hcut, hbelow⟩ := slot.exists_lines_after
  refine ⟨below, cut, hcut, fun line hne hline => ?_⟩
  rw [fill, List.append_assoc, lines_before, hbelow line hne hline]

/-- The same place in a text with one more piece on top. -/
def under (piece : List Char) (slot : Slot) : Slot where
  before := piece ++ '\n' :: slot.before
  after := slot.after
  opens := by
    rcases slot.opens with h | ⟨above, h⟩
    · exact .inr ⟨piece, by rw [h]⟩
    · exact .inr ⟨piece ++ '\n' :: above, by simp [h]⟩
  closes := slot.closes

theorem above_under {piece : List Char} (h : '\n' ∉ piece) (slot : Slot) :
    (slot.under piece).above = dropLineEnd piece :: slot.above := by
  have hlines : (slot.under piece).above
      = (splitWhen (· = '\n') piece).map dropLineEnd ++ lines slot.before :=
    lines_append_newline piece slot.before
  rw [hlines, splitWhen_of_not_mem h]
  rfl

/-- Every line of some pieces put together stands in a slot. -/
theorem exists_fill_intercalate {pieces above below : List (List Char)} {line : List Char}
    (hpieces : ∀ piece ∈ pieces, '\n' ∉ piece)
    (h : linesOfPieces pieces = above ++ line :: below) :
    ∃ slot : Slot, slot.fill line = List.intercalate ['\n'] pieces ∧ slot.above = above := by
  induction pieces generalizing above with
  | nil => simp [linesOfPieces] at h
  | cons piece pieces ih =>
    rcases pieces with - | ⟨next, pieces⟩
    · rw [linesOfPieces] at h
      split at h
      · simp at h
      · obtain ⟨rfl, hline⟩ := List.append_eq_singleton_iff.mp h.symm |>.resolve_right (by simp)
        obtain ⟨rfl, -⟩ := List.cons.inj hline
        exact ⟨⟨[], [], .inl rfl, .inl rfl⟩, by simp [fill], rfl⟩
    · rw [List.intercalate_cons_cons]
      rcases above with - | ⟨first, above⟩
      · -- what was taken off the piece is put back in front of the line feed
        obtain ⟨rfl, -⟩ := List.cons.inj h
        obtain ⟨ending, hending, hpiece⟩ := exists_ending piece
        have hcloses : ending = [] ∨ ending = ['\r'] := by simpa using hending
        refine ⟨⟨[], ending ++ '\n' :: List.intercalate ['\n'] (next :: pieces), .inl rfl, ?_⟩,
          ?_, rfl⟩
        · rcases hcloses with rfl | rfl
          · exact .inr ⟨_, .inl rfl⟩
          · exact .inr ⟨_, .inr rfl⟩
        · conv => rhs; rw [hpiece]
          simp [fill]
      · obtain ⟨rfl, hrest⟩ := List.cons.inj h
        obtain ⟨slot, hslot, rfl⟩ :=
          ih (fun p hp => hpieces p (List.mem_cons_of_mem piece hp)) hrest
        refine ⟨slot.under piece, ?_, above_under (hpieces piece List.mem_cons_self) slot⟩
        rw [← hslot]
        simp [fill, under]

end Slot

/-- **Every line of a text stands in a slot of it.** -/
theorem exists_fill_eq {above below : List (List Char)} {line : List Char}
    (h : lines s = above ++ line :: below) :
    ∃ slot : Slot, slot.fill line = s ∧ slot.above = above := by
  have hwhole : List.intercalate ['\n'] (splitWhen (· = '\n') s) = s := by
    rw [splitWhen_eq_splitOnP]
    exact List.intercalate_splitOn '\n'
  rw [← hwhole]
  refine Slot.exists_fill_intercalate (fun piece hpiece hmem => ?_) h
  have hcut := not_cut_of_mem_splitWhen piece hpiece _ hmem
  simp at hcut

end AwsSigning.Text
