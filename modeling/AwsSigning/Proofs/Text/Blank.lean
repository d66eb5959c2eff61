/-
AwsSigning/Proofs/Text/Blank.lean

Texts that were put together from trimmed texts and white space.

A text is trimmed if no white space stands at either end
(`trim_eq_self_iff`), and then trimming finds it again between white space on
both sides.  In the same way words and lines are found again between what
separates them.  Of a line the ending may have taken a carriage return
(`dropLineEnd`), so a line is found again only if it does not end in one.
-/
import AwsSigning.Proofs.Text.Split

namespace AwsSigning.Text

variable {s t : List Char} {c : Char}

/-! ### White space -/

/-- Visible characters of ASCII are not blank. -/
theorem isBlank_of_visible (hlow : 0x20 < c.toNat) (hhigh : c.toNat < 0x7F) :
    isBlank c = false := by
  have hrange : ∀ n < 0x7F, 0x20 < n → inRanges blankRanges n = false := by decide
  exact hrange c.toNat hhigh hlow

/-- Letters and digits of ASCII by their code points. -/
theorem toNat_of_isAlphanum (h : c.isAlphanum = true) : 0x30 ≤ c.toNat ∧ c.toNat ≤ 0x7A := by
  change ((decide (65 ≤ c.val ∧ c.val ≤ 90) || (decide (97 ≤ c.val) && decide (c.val ≤ 122)))
    || (decide (48 ≤ c.val) && decide (c.val ≤ 57))) = true at h
  simp only [Bool.or_eq_true, Bool.and_eq_true, decide_eq_true_eq, UInt32.le_iff_toNat_le] at h
  change ((65 ≤ c.toNat ∧ c.toNat ≤ 90) ∨ (97 ≤ c.toNat ∧ c.toNat ≤ 122)) ∨
    (48 ≤ c.toNat ∧ c.toNat ≤ 57) at h
  omega

/-! ### Trimming -/

theorem trimStart_eq_self_iff : trimStart s = s ↔ ∀ c ∈ s.head?, isBlank c = false := by
  rcases s with - | ⟨c, s⟩
  · simp [trimStart]
  · rw [trimStart, List.dropWhile_cons]
    rcases hc : isBlank c with - | -
    · simp [hc]
    · -- a text is never one of its own proper ends
      have hshorter := (List.dropWhile_suffix (l := s) isBlank).length_le
      simp only [if_true, List.head?_cons, Option.mem_def, Option.some.injEq, forall_eq', hc,
        Bool.true_eq_false, iff_false]
      intro heq
      rw [heq, List.length_cons] at hshorter
      omega

theorem trimEnd_eq_self_iff : trimEnd s = s ↔ ∀ c ∈ s.getLast?, isBlank c = false := by
  have hreverse : trimEnd s = s ↔ trimStart s.reverse = s.reverse := by
    rw [trimEnd, trimStart, List.reverse_eq_iff]
  rw [hreverse, trimStart_eq_self_iff, List.head?_reverse]

/-- **A text is trimmed if no white space stands at either end.** -/
theorem trim_eq_self_iff : trim s = s ↔ trimStart s = s ∧ trimEnd s = s := by
  constructor
  · intro h
    -- if anything were cut off in front, nothing could be there to make up for it
    have hend : (trim s).length ≤ (trimStart s).length :=
      calc (trim s).length
        _ = ((trimStart s).reverse.dropWhile isBlank).length := List.length_reverse
        _ ≤ (trimStart s).reverse.length := (List.dropWhile_suffix isBlank).length_le
        _ = (trimStart s).length := List.length_reverse
    rw [h] at hend
    have hstart : trimStart s = s := (List.dropWhile_suffix isBlank).eq_of_length_le hend
    rw [trim, hstart] at h
    exact ⟨hstart, h⟩
  · rintro ⟨hstart, hend⟩
    rw [trim, hstart, hend]

/-- A text without white space is trimmed. -/
theorem trim_of_not_blank (h : ∀ c ∈ s, isBlank c = false) : trim s = s := by
  apply trim_eq_self_iff.mpr
  constructor
  · exact trimStart_eq_self_iff.mpr fun c hc => h c (List.mem_of_mem_head? hc)
  · exact trimEnd_eq_self_iff.mpr fun c hc => h c (List.mem_of_mem_getLast? hc)

/-- White space is taken off no further than up to a visible character. -/
theorem trimEnd_cons (hc : isBlank c = false) (s : List Char) :
    trimEnd (c :: s) = c :: trimEnd s := by
  rw [trimEnd, List.reverse_cons, List.dropWhile_append]
  split
  · next hempty =>
    rw [trimEnd, List.isEmpty_iff.mp hempty, List.dropWhile_cons_of_neg (by simp [hc])]
    rfl
  · rw [List.reverse_append]
    rfl

theorem trimEnd_append_cons (hc : isBlank c = false) (s t : List Char) :
    trimEnd (s ++ c :: t) = s ++ c :: trimEnd t := by
  have hend := trimEnd_cons hc t
  rw [trimEnd, List.reverse_append, List.dropWhile_append]
  split
  · next hempty =>
    rw [trimEnd, List.isEmpty_iff.mp hempty] at hend
    cases hend
  · rw [trimEnd] at hend
    rw [List.reverse_append, List.reverse_reverse, hend]

theorem trimEnd_append_blank (s : List Char) (hblank : isBlankText t = true) :
    trimEnd (s ++ t) = trimEnd s := by
  rw [trimEnd, List.reverse_append, List.dropWhile_append_of_pos]
  · rfl
  · intro c hc
    exact List.all_eq_true.mp hblank c (List.mem_reverse.mp hc)

/-- White space in front of a text is taken off. -/
theorem trim_append_of_blank (hblank : isBlankText s = true) (t : List Char) :
    trim (s ++ t) = trim t := by
  have hdrop : trimStart (s ++ t) = trimStart t :=
    List.dropWhile_append_of_pos (List.all_eq_true.mp hblank)
  rw [trim, hdrop]
  rfl

theorem trim_append_left (hblank : isBlankText s = true) (h : trim t = t) :
    trim (s ++ t) = t := by
  rw [trim_append_of_blank hblank]
  exact h

/-- White space behind a text is taken off as well. -/
theorem trim_append_blank (s : List Char) (hblank : isBlankText t = true) :
    trim (s ++ t) = trim s := by
  rw [trim, trimStart, List.dropWhile_append]
  split
  · next hempty =>
    -- nothing is left of the text in front, nor of the white space
    have hgone : t.dropWhile isBlank = [] := by
      rw [← List.append_nil t, List.dropWhile_append_of_pos (List.all_eq_true.mp hblank)]
      rfl
    rw [hgone, trim, trimStart, List.isEmpty_iff.mp hempty]
  · rw [trimEnd_append_blank _ hblank]
    rfl

theorem trim_append_right (hblank : isBlankText t = true) (h : trim s = s) :
    trim (s ++ t) = s := by
  rw [trim_append_blank s hblank]
  exact h

/-- Whatever stands between two trimmed texts, the whole is trimmed. -/
theorem trim_append_middle (hs : trim s = s) (hsne : s ≠ []) (ht : trim t = t) (htne : t ≠ [])
    (middle : List Char) : trim (s ++ middle ++ t) = s ++ middle ++ t := by
  apply trim_eq_self_iff.mpr
  constructor
  · rw [trimStart_eq_self_iff, List.append_assoc, List.head?_append, List.head?_eq_some_head hsne,
      Option.some_or, ← List.head?_eq_some_head hsne]
    exact trimStart_eq_self_iff.mp (trim_eq_self_iff.mp hs).1
  · rw [trimEnd_eq_self_iff, List.getLast?_append, List.getLast?_eq_some_getLast htne,
      Option.some_or, ← List.getLast?_eq_some_getLast htne]
    exact trimEnd_eq_self_iff.mp (trim_eq_self_iff.mp ht).2

/-- What is cut off at either end is white space. -/
theorem exists_trim (s : List Char) :
    ∃ front back, s = front ++ trim s ++ back ∧ isBlankText front = true ∧
      isBlankText back = true := by
  refine ⟨s.takeWhile isBlank, ((trimStart s).reverse.takeWhile isBlank).reverse, ?_,
    List.all_takeWhile, ?_⟩
  · have hback : trim s ++ ((trimStart s).reverse.takeWhile isBlank).reverse = trimStart s := by
      rw [trim, trimEnd, ← List.reverse_append, List.takeWhile_append_dropWhile,
        List.reverse_reverse]
    rw [List.append_assoc, hback, trimStart, List.takeWhile_append_dropWhile]
  · rw [isBlankText, List.all_reverse]
    exact List.all_takeWhile

/-- Of a character that is not blank trimming loses nothing. -/
theorem mem_trim_iff (hc : isBlank c = false) : c ∈ trim s ↔ c ∈ s := by
  obtain ⟨front, back, hs, hfront, hback⟩ := exists_trim s
  have hout : ∀ {t : List Char}, isBlankText t = true → c ∉ t := by
    intro t ht hmem
    have hblank := List.all_eq_true.mp ht c hmem
    rw [hc] at hblank
    cases hblank
  constructor
  · intro h
    rw [hs]
    simp [h]
  · intro h
    rw [hs] at h
    simpa [hout hfront, hout hback] using h

/-- Trimming adds nothing. -/
theorem mem_of_mem_trim (h : c ∈ trim s) : c ∈ s := by
  obtain ⟨front, back, hs, -, -⟩ := exists_trim s
  rw [hs]
  simp [h]

/-- Trimming makes no text blank that was not. -/
theorem isBlankText_trim (s : List Char) : isBlankText (trim s) = isBlankText s := by
  obtain ⟨front, back, hs, hfront, hback⟩ := exists_trim s
  have hall : isBlankText (front ++ trim s ++ back) = isBlankText (trim s) := by
    rw [isBlankText] at hfront hback ⊢
    rw [List.all_append, List.all_append, hfront, hback, Bool.true_and, Bool.and_true]
    rfl
  rw [← hall, ← hs]

/-- A trimmed text is blank only if there is nothing of it. -/
theorem eq_nil_of_isBlankText (hblank : isBlankText s = true) (h : trim s = s) : s = [] := by
  rw [← h, ← List.append_nil s, trim_append_left hblank rfl]

theorem trim_trim (s : List Char) : trim (trim s) = trim s := by
  obtain ⟨front, back, hs, hfront, hback⟩ := exists_trim s
  conv => rhs; rw [hs, List.append_assoc, trim_append_of_blank hfront, trim_append_blank _ hback]

/-- A trimmed text starts with what is to be seen. -/
theorem not_isBlank_of_head?_trim (h : c ∈ (trim s).head?) : isBlank c = false := by
  have hfirst := List.head?_dropWhile_not isBlank s
  rcases hstart : trimStart s with - | ⟨first, t⟩
  · rw [trim, hstart] at h
    cases h
  · rw [trimStart] at hstart
    rw [hstart] at hfirst
    have hvisible : isBlank first = false := hfirst
    rw [trim, trimStart, hstart, trimEnd_cons hvisible] at h
    cases h
    exact hvisible

/-! ### Words -/

theorem words_of_word (hne : s ≠ []) (h : ∀ c ∈ s, isBlank c = false) : words s = [s] := by
  rw [words, splitWhen_eq_splitOnP, List.splitOnP_eq_singleton h]
  simp [hne]

/-- A word ends at white space. -/
theorem words_append_cons (hne : s ≠ []) (h : ∀ c ∈ s, isBlank c = false)
    (hc : isBlank c = true) : words (s ++ c :: t) = s :: words t := by
  rw [words, splitWhen_eq_splitOnP, List.splitOnP_append_cons s t hc, List.splitOnP_eq_singleton h,
    List.singleton_append, List.filter_cons_of_pos (by simpa using hne), ← splitWhen_eq_splitOnP]
  rfl

/-- What is no white space stands in a word. -/
theorem exists_mem_words (hmem : c ∈ s) (hc : isBlank c = false) : ∃ word ∈ words s, c ∈ word := by
  obtain ⟨piece, hpiece, hin⟩ := exists_mem_splitWhen hmem hc
  exact ⟨piece, List.mem_filter.mpr ⟨hpiece, by simpa using List.ne_nil_of_mem hin⟩, hin⟩

/-! ### Lines -/

theorem lines_intercalate {pieces : List (List Char)} (h : ∀ piece ∈ pieces, '\n' ∉ piece) :
    lines (List.intercalate ['\n'] pieces) = linesOfPieces pieces := by
  by_cases hne : pieces = []
  · subst hne
    rfl
  · rw [lines, splitWhen_intercalate hne h]

theorem dropLineEnd_of_getLast? (h : s.getLast? ≠ some '\r') : dropLineEnd s = s := by
  unfold dropLineEnd
  split
  · next rest hreverse =>
    rw [← List.head?_reverse, hreverse] at h
    exact absurd rfl h
  · rfl

/-- The carriage return of an ending is taken off. -/
theorem dropLineEnd_append_return (s : List Char) : dropLineEnd (s ++ ['\r']) = s := by
  simp [dropLineEnd]

/-- What is taken off a line is nothing, or one carriage return. -/
theorem exists_ending (s : List Char) : ∃ ending ∈ [[], ['\r']], s = dropLineEnd s ++ ending := by
  by_cases hlast : s.getLast? = some '\r'
  · obtain ⟨front, rfl⟩ := List.getLast?_eq_some_iff.mp hlast
    exact ⟨['\r'], by simp, by rw [dropLineEnd_append_return]⟩
  · exact ⟨[], by simp, by rw [dropLineEnd_of_getLast? hlast, List.append_nil]⟩

theorem mem_of_mem_dropLineEnd (h : c ∈ dropLineEnd s) : c ∈ s := by
  obtain ⟨ending, -, hs⟩ := exists_ending s
  rw [hs]
  exact List.mem_append_left ending h

/-- It comes from behind every other character. -/
theorem dropLineEnd_append_cons (hc : c ≠ '\r') (s t : List Char) :
    dropLineEnd (s ++ c :: t) = s ++ c :: dropLineEnd t := by
  rcases List.eq_nil_or_concat t with rfl | ⟨t, d, rfl⟩
  · rw [dropLineEnd_of_getLast? (by simpa using hc)]
    rfl
  · have hwhole : s ++ c :: (t ++ [d]) = (s ++ c :: t) ++ [d] := by simp
    rw [List.concat_eq_append]
    by_cases hd : d = '\r'
    · rw [hwhole, hd, dropLineEnd_append_return, dropLineEnd_append_return]
    · have hlast : ∀ front : List Char, (front ++ [d]).getLast? ≠ some '\r' := by simp [hd]
      rw [dropLineEnd_of_getLast? (hlast t), hwhole, dropLineEnd_of_getLast? (hlast _)]

/-- All lines but the last one have an ending. -/
theorem linesOfPieces_append {pieces rest : List (List Char)} (h : rest ≠ []) :
    linesOfPieces (pieces ++ rest) = pieces.map dropLineEnd ++ linesOfPieces rest := by
  induction pieces with
  | nil => rfl
  | cons piece pieces ih =>
    obtain ⟨next, more, hmore⟩ : ∃ next more, pieces ++ rest = next :: more :=
      List.exists_cons_of_ne_nil (by simp [h])
    have hlines : linesOfPieces (piece :: (pieces ++ rest))
        = dropLineEnd piece :: linesOfPieces (pieces ++ rest) := by
      rw [hmore]
      rfl
    rw [List.cons_append, hlines, ih, List.map_cons, List.cons_append]

/-- Behind a line feed a text goes on with the lines of what stands there. -/
theorem lines_append_newline (s t : List Char) :
    lines (s ++ '\n' :: t) = (splitWhen (· = '\n') s).map dropLineEnd ++ lines t := by
  rw [lines, splitWhen_append_cons, linesOfPieces_append (splitWhen_ne_nil _ t)]
  rfl

theorem dropLineEnd_trimEnd (s : List Char) : dropLineEnd (trimEnd s) = trimEnd s := by
  apply dropLineEnd_of_getLast?
  intro hlast
  have hblank := List.head?_dropWhile_not isBlank s.reverse
  rw [trimEnd, List.getLast?_reverse] at hlast
  rw [hlast] at hblank
  exact absurd hblank (by decide)

/-- A trimmed line has no ending. -/
theorem dropLineEnd_trim (s : List Char) : dropLineEnd (trim s) = trim s :=
  dropLineEnd_trimEnd (trimStart s)

/-- Lines that are not empty and have no endings come back as they are. -/
theorem linesOfPieces_eq_self {pieces : List (List Char)}
    (h : ∀ piece ∈ pieces, piece ≠ [] ∧ dropLineEnd piece = piece) :
    linesOfPieces pieces = pieces := by
  induction pieces with
  | nil => rfl
  | cons piece pieces ih =>
    obtain ⟨hne, hend⟩ := h piece List.mem_cons_self
    rcases pieces with - | ⟨next, pieces⟩
    · rw [linesOfPieces, if_neg hne]
    · show dropLineEnd piece :: linesOfPieces (next :: pieces) = _
      rw [hend, ih fun p hp => h p (List.mem_cons_of_mem piece hp)]

/-- Everything in a line stands in one of the pieces. -/
theorem exists_piece_of_mem_linesOfPieces {pieces : List (List Char)} {line : List Char}
    (h : line ∈ linesOfPieces pieces) : ∃ piece ∈ pieces, ∀ c ∈ line, c ∈ piece := by
  induction pieces with
  | nil => cases h
  | cons piece pieces ih =>
    rcases pieces with - | ⟨next, pieces⟩
    · rw [linesOfPieces] at h
      split at h
      · cases h
      · rw [List.mem_singleton.mp h]
        exact ⟨piece, List.mem_cons_self, fun c hc => hc⟩
    · rcases List.mem_cons.mp h with rfl | hrest
      · exact ⟨piece, List.mem_cons_self, fun c => mem_of_mem_dropLineEnd⟩
      · obtain ⟨p, hp, hall⟩ := ih hrest
        exact ⟨p, List.mem_cons_of_mem piece hp, hall⟩

/-- No line holds a line feed. -/
theorem newline_not_mem_of_mem_lines {line : List Char} (h : line ∈ lines s) : '\n' ∉ line := by
  obtain ⟨piece, hpiece, hall⟩ := exists_piece_of_mem_linesOfPieces h
  intro hmem
  have hcut := not_cut_of_mem_splitWhen piece hpiece _ (hall _ hmem)
  simp at hcut

/-- Of the lines that are looked at, none is changed by its ending; of those that are passed over,
none comes back. -/
theorem filter_linesOfPieces {keep : List Char → Bool} {pieces : List (List Char)}
    (hkeep : ∀ piece ∈ pieces, keep piece = true → dropLineEnd piece = piece)
    (hskip : ∀ piece ∈ pieces, keep piece = false → keep (dropLineEnd piece) = false)
    (hnil : keep [] = false) : (linesOfPieces pieces).filter keep = pieces.filter keep := by
  induction pieces with
  | nil => rfl
  | cons piece pieces ih =>
    have hrest := ih (fun p hp => hkeep p (List.mem_cons_of_mem _ hp))
      fun p hp => hskip p (List.mem_cons_of_mem _ hp)
    rcases pieces with - | ⟨next, pieces⟩
    · -- behind the last line feed there is a line only if there is anything
      rw [linesOfPieces]
      split
      · next hempty => simp [hempty, hnil]
      · rfl
    · have hlines : linesOfPieces (piece :: next :: pieces)
          = dropLineEnd piece :: linesOfPieces (next :: pieces) := rfl
      rcases hpiece : keep piece with - | -
      · have hgone : keep (dropLineEnd piece) = false := hskip piece List.mem_cons_self hpiece
        have hleft : (piece :: next :: pieces).filter keep = (next :: pieces).filter keep :=
          List.filter_cons_of_neg (by simp [hpiece])
        rw [hlines, List.filter_cons_of_neg (by simp [hgone]), hrest, hleft]
      · rw [hlines, hkeep piece List.mem_cons_self hpiece, List.filter_cons_of_pos hpiece, hrest,
          List.filter_cons_of_pos hpiece]

end AwsSigning.Text
