/-
AwsSigning/Proofs/SharedConfig/Partition.lean

Folding loses nothing, says nothing twice and keeps the order.

The physical lines that are not passed over are cut into groups: a line that
opens a logical line, and the lines below it up to the next one that does
(`groupsOf`).  Lines that are folded can stand above all groups only if there
is no header above them, which is an error, so in a text that can be folded
the groups make up all that is not passed over
(`leading_append_groupsOf`, `leading_eq_nil`).  Every group gives one logical
line (`logicalFrom_eq_map`), from whose content the group is found again by
cutting at the line feeds, since no physical line has one (`splitWhen_content`).

The lines carry their numbers with them, so that the number of a logical line
can be compared with the one its first line has in the text.
-/
import AwsSigning.Proofs.SharedConfig.Stray
import Mathlib.Data.List.Forall2

namespace AwsSigning.SharedConfig

/-! ### Groups -/

/-- A physical line and its number. -/
abbrev Numbered : Type := List Char × Nat

/-- A physical line that opens a logical line, and those folded onto it. -/
structure Group where
  first : Numbered
  below : List Numbered

/-- The physical lines of a group, in order. -/
def Group.all (g : Group) : List Numbered := g.first :: g.below

/-- The logical line that is made of a group. -/
def Group.line (g : Group) : Line := ⟨g.first.2, g.first.1, g.below.map fun raw => Text.trim raw.1⟩

/-- The lines that are folded onto whatever stands above. -/
def leading (lines : List Numbered) : List Numbered :=
  (lines.takeWhile fun raw => !opens raw.1).filter fun raw => isFolded raw.1

/-- The groups of some lines; those that lead belong to none. -/
def groupsOf : List Numbered → List Group
  | [] => []
  | raw :: below => if opens raw.1 then ⟨raw, leading below⟩ :: groupsOf below else groupsOf below

variable {g : Group} {lines : List Numbered} {raw : Numbered}

theorem leading_of_opens (h : opens raw.1 = true) (lines : List Numbered) :
    leading (raw :: lines) = [] := by
  simp [leading, h]

theorem leading_cons (h : opens raw.1 = false) (lines : List Numbered) :
    leading (raw :: lines) = if isFolded raw.1 then raw :: leading lines else leading lines := by
  rw [leading, List.takeWhile_cons_of_pos (by simp [h]), List.filter_cons]
  rfl

/-- **The groups and what stands above them** are all that is not passed over, in order. -/
theorem leading_append_groupsOf (lines : List Numbered) :
    leading lines ++ (groupsOf lines).flatMap Group.all
      = lines.filter fun raw => !isSkipped raw.1 := by
  induction lines with
  | nil => rfl
  | cons raw lines ih =>
    rw [groupsOf]
    rcases hopens : opens raw.1 with - | -
    · -- the line is passed over, or leads the rest
      rw [leading_cons hopens, if_neg Bool.false_ne_true]
      rcases hskip : isSkipped raw.1 with - | -
      · have hfolded : isFolded raw.1 = true := by
          simp only [opens, isPlain, Bool.or_eq_false_iff] at hopens
          simpa [isFolded, hskip, hopens.1] using hopens.2
        rw [if_pos hfolded, List.filter_cons_of_pos (by simp [hskip]), List.cons_append, ih]
      · rw [if_neg (by simp [isFolded, hskip]), List.filter_cons_of_neg (by simp [hskip]), ih]
    · -- the lines that led the rest are folded onto this one
      have hkept : isSkipped raw.1 = false := by
        by_contra hskip
        rw [opens_of_isSkipped (by simpa using hskip)] at hopens
        cases hopens
      rw [if_pos rfl, leading_of_opens hopens, List.flatMap_cons, List.nil_append,
        List.filter_cons_of_pos (by simp [hkept]), ← ih]
      rfl

/-- What a group consists of. -/
theorem of_mem_groupsOf (h : g ∈ groupsOf lines) :
    opens g.first.1 = true ∧ ∀ raw ∈ g.below, isFolded raw.1 = true := by
  induction lines with
  | nil => cases h
  | cons raw lines ih =>
    rw [groupsOf] at h
    split at h
    · next hopens =>
      rcases List.mem_cons.mp h with rfl | h
      · exact ⟨hopens, fun _ hraw => (List.mem_filter.mp hraw).2⟩
      · exact ih h
    · exact ih h

/-- The lines of a group are among those it is a group of. -/
theorem mem_of_mem_groupsOf (h : g ∈ groupsOf lines) : ∀ raw ∈ g.all, raw ∈ lines := by
  intro raw hraw
  have hmem : raw ∈ leading lines ++ (groupsOf lines).flatMap Group.all :=
    List.mem_append_right _ (List.mem_flatMap.mpr ⟨g, h, hraw⟩)
  rw [leading_append_groupsOf] at hmem
  exact (List.mem_filter.mp hmem).1

/-! ### Groups of a text -/

theorem map_leading (lines : List Numbered) :
    (leading lines).map Prod.fst = foldedBelow (lines.map Prod.fst) := by
  rw [leading, foldedBelow, List.takeWhile_map, List.filter_map]
  rfl

/-- **Logical lines are made of groups.** -/
theorem logicalFrom_eq_map (n : Nat) (lines : List (List Char)) :
    logicalFrom n lines = (groupsOf (lines.zipIdx n)).map Group.line := by
  induction lines generalizing n with
  | nil => rfl
  | cons raw lines ih =>
    rw [logicalFrom, List.zipIdx_cons, groupsOf, ih]
    split
    · have hfolded : foldedBelow lines = (leading (lines.zipIdx (n + 1))).map Prod.fst := by
        rw [map_leading, List.zipIdx_map_fst]
      rw [hfolded, List.map_map, List.map_cons]
      rfl
    · rfl

/-- In a text that can be folded nothing leads. -/
theorem leading_eq_nil {text : List Char} {logical : List Line}
    (h : foldLines text = .ok logical) : leading ((Text.lines text).zipIdx 1) = [] := by
  have hfaultless := exists_foldLines_iff.mp ⟨logical, h⟩
  have hnone : foldedBelow (Text.lines text) = [] := by
    rcases hfolded : foldedBelow (Text.lines text) with - | ⟨raw, after⟩
    · rfl
    · -- above the first line that is folded there is no header
      have hsplit : foldedBelow (Text.lines text) = [] ++ raw :: after := hfolded
      obtain ⟨hraw, between, rest, hlines, -, hbetween⟩ := split_of_foldedBelow hsplit
      have hheader := (View.fault?_eq_none_iff.mp (hfaultless between raw rest hlines) hraw).1
      rw [viewOf_header] at hheader
      obtain ⟨line, hline, hheader⟩ := List.any_eq_true.mp hheader
      rw [(opens_eq_false_iff.mp (hbetween line hline)).1] at hheader
      cases hheader
  rw [← List.map_eq_nil_iff, map_leading, List.zipIdx_map_fst, hnone]

/-- **The group is found again** in what is made of it. -/
theorem splitWhen_content (h : ∀ raw ∈ g.all, '\n' ∉ raw.1) :
    Text.splitWhen (· = '\n') g.line.content
      = g.first.1 :: g.below.map fun raw => Text.trim raw.1 := by
  obtain ⟨hfirst, hbelow⟩ := List.forall_mem_cons.mp h
  refine Text.splitWhen_intercalate (by simp) fun piece hpiece => ?_
  rcases List.mem_cons.mp hpiece with rfl | hpiece
  · exact hfirst
  obtain ⟨raw, hraw, rfl⟩ := List.mem_map.mp hpiece
  exact fun hmem => hbelow raw hraw (Text.mem_of_mem_trim hmem)

/-! ### What folding keeps -/

theorem not_isContinuation_of_opens {line : List Char} (h : opens line = true) :
    isContinuation line = false := by
  rcases (Bool.or_eq_true _ _).mp h with hheader | hplain
  · exact (not_isSkipped_of_isHeader hheader).2
  · exact (isPlain_iff.mp hplain).2.2

/-- A line is a continuation if white space stands at its start. -/
theorem isContinuation_iff {line : List Char} :
    isContinuation line = true ↔ ∃ c ∈ line.head?, Text.isBlank c = true := by
  rcases line with - | ⟨c, line⟩
  · simp [isContinuation]
  · simp [isContinuation]

/-- A physical line as a piece of a logical one. -/
def asPiece (line : List Char) : List Char := if isContinuation line then Text.trim line else line

/-- What a logical line is to the physical lines that went into it. -/
structure MadeOf (l : Line) (g : Group) : Prop where
  number : l.number = g.first.2
  /-- The first line verbatim, and the others trimmed. -/
  pieces : Text.splitWhen (· = '\n') l.content
    = g.first.1 :: g.below.map fun raw => Text.trim raw.1
  flush : ¬∃ c ∈ g.first.1.head?, Text.isBlank c = true
  indented : ∀ raw ∈ g.below, ∃ c ∈ raw.1.head?, Text.isBlank c = true

/-- Whether a line is trimmed is decided by how it starts. -/
theorem MadeOf.pieces_eq_map {l : Line} (h : MadeOf l g) :
    Text.splitWhen (· = '\n') l.content = g.all.map fun raw => asPiece raw.1 := by
  have hfirst : asPiece g.first.1 = g.first.1 := if_neg (mt isContinuation_iff.mp h.flush)
  have hbelow : (g.below.map fun raw => Text.trim raw.1) = g.below.map fun raw => asPiece raw.1 :=
    List.map_congr_left fun raw hraw => (if_pos (isContinuation_iff.mpr (h.indented raw hraw))).symm
  rw [h.pieces, Group.all, List.map_cons, hfirst, hbelow]

section

variable {logical : List Line} {groups : List Group}

/-- From the groups it can be told what the pieces of all logical lines are. -/
theorem flatMap_pieces (h : List.Forall₂ MadeOf logical groups) :
    logical.flatMap (fun l => Text.splitWhen (· = '\n') l.content)
      = (groups.flatMap Group.all).map fun raw => asPiece raw.1 := by
  induction h with
  | nil => rfl
  | cons hmade _ ih =>
    rw [List.flatMap_cons, List.flatMap_cons, List.map_append, hmade.pieces_eq_map, ih]

theorem map_number (h : List.Forall₂ MadeOf logical groups) :
    logical.map Line.number = (groups.map Group.first).map Prod.snd := by
  induction h with
  | nil => rfl
  | cons hmade _ ih => rw [List.map_cons, List.map_cons, List.map_cons, hmade.number, ih]

theorem map_first_sublist (groups : List Group) :
    (groups.map Group.first).Sublist (groups.flatMap Group.all) := by
  induction groups with
  | nil => exact List.nil_sublist []
  | cons g groups ih =>
    have hrest := ih.trans (List.sublist_append_right g.below (groups.flatMap Group.all))
    exact hrest.cons_cons g.first

/-- Groups that stand in the order of a text have numbers that grow. -/
theorem pairwise_number {n : Nat} {text : List (List Char)}
    (h : List.Forall₂ MadeOf logical groups)
    (hall : (groups.flatMap Group.all).Sublist (text.zipIdx n)) :
    (logical.map Line.number).Pairwise (· < ·) := by
  have hsublist := ((map_first_sublist groups).trans hall).map Prod.snd
  rw [List.zipIdx_map_snd] at hsublist
  rw [map_number h]
  exact List.Pairwise.sublist hsublist List.pairwise_lt_range'

end

theorem madeOf_line (hg : g ∈ groupsOf lines) (hlines : ∀ raw ∈ lines, '\n' ∉ raw.1) :
    MadeOf g.line g where
  number := rfl
  pieces := splitWhen_content fun raw hraw => hlines raw (mem_of_mem_groupsOf hg raw hraw)
  flush := by
    rw [← isContinuation_iff, not_isContinuation_of_opens (of_mem_groupsOf hg).1]
    exact Bool.false_ne_true
  indented := fun raw hraw =>
    isContinuation_iff.mp (isFolded_iff.mp ((of_mem_groupsOf hg).2 raw hraw)).2

variable {text : List Char} {logical : List Line}

theorem newline_not_mem_of_mem_zipIdx {n : Nat} (h : raw ∈ (Text.lines text).zipIdx n) :
    '\n' ∉ raw.1 := by
  apply Text.newline_not_mem_of_mem_lines (s := text)
  rw [← List.zipIdx_map_fst n (Text.lines text)]
  exact List.mem_map_of_mem h

/-- **Folding loses nothing, doubles nothing and keeps the order.**  The numbered lines that are
not passed over are cut into groups, and each group makes one logical line; the numbers of the
logical lines grow. -/
theorem exists_groups_of_foldLines (h : foldLines text = .ok logical) :
    (∃ groups : List Group,
      groups.flatMap Group.all
        = ((Text.lines text).zipIdx 1).filter (fun raw => !isSkipped raw.1) ∧
      List.Forall₂ MadeOf logical groups) ∧
    logical.flatMap (fun l => Text.splitWhen (· = '\n') l.content)
      = ((Text.lines text).filter fun line => !isSkipped line).map asPiece ∧
    (logical.map Line.number).Pairwise (· < ·) := by
  set groups := groupsOf ((Text.lines text).zipIdx 1)
  have hall : groups.flatMap Group.all
      = ((Text.lines text).zipIdx 1).filter fun raw => !isSkipped raw.1 := by
    rw [← leading_append_groupsOf, leading_eq_nil h, List.nil_append]
  have hmade : List.Forall₂ MadeOf logical groups := by
    rw [eq_of_foldLines h, logicalFrom_eq_map, List.forall₂_map_left_iff, List.forall₂_same]
    exact fun g hg => madeOf_line hg fun raw hraw => newline_not_mem_of_mem_zipIdx hraw
  refine ⟨⟨groups, hall, hmade⟩, ?_, pairwise_number hmade (hall ▸ List.filter_sublist)⟩
  calc logical.flatMap (fun l => Text.splitWhen (· = '\n') l.content)
    _ = (groups.flatMap Group.all).map fun raw => asPiece raw.1 := flatMap_pieces hmade
    _ = ((Text.lines text).filter fun line => !isSkipped line).map asPiece := by
      conv_rhs => rw [← List.zipIdx_map_fst 1 (Text.lines text)]
      rw [hall, List.filter_map, List.map_map]
      rfl

/-- A comment, a blank line, and continuations below and between them. -/
def interruptedText : List Char :=
  "[default]\n# note\nregion =\n  key = value \n\n\tother = 1\nsource = env\n".toList

/-- The logical lines of the text. -/
def interruptedLines : List Line :=
  [⟨1, "[default]".toList, []⟩,
    ⟨3, "region =".toList, ["key = value".toList, "other = 1".toList]⟩,
    ⟨7, "source = env".toList, []⟩]

theorem exists_groups_of_interruptedText :
    foldLines interruptedText = .ok interruptedLines ∧
    ∃ groups : List Group, groups.flatMap Group.all
      = [("[default]".toList, 1), ("region =".toList, 3), ("  key = value ".toList, 4),
        ("\tother = 1".toList, 6), ("source = env".toList, 7)] ∧
      List.Forall₂ MadeOf interruptedLines groups := by
  have hfold : foldLines interruptedText = .ok interruptedLines := rfl
  obtain ⟨⟨groups, hall, hmade⟩, -, -⟩ := exists_groups_of_foldLines hfold
  refine ⟨hfold, groups, ?_, hmade⟩
  rw [hall]
  decide

end AwsSigning.SharedConfig
