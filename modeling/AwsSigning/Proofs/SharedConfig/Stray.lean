/-
AwsSigning/Proofs/SharedConfig/Stray.lean

When a line that is no property is taken for one.

A line that is neither a header nor a property nor folded onto another one is
a *stray* line: it opens a logical line, but it has no `=`.  Whether that is
found wrong is decided in the second pass, and there the lines folded onto it
count too.  So a stray line is accepted if they make up for it (`Propped`):

    a property stands above it in its section, or nothing could be folded
    onto it, and the lines folded onto it make up a property

With this the parser is described for all texts (`exists_parse_iff`): what it
accepts are texts without a violation whose stray lines are propped.
-/
import Mathlib.Data.List.Induction
import AwsSigning.Proofs.SharedConfig.Logical

namespace AwsSigning.SharedConfig

variable {lines above between front below rest : List (List Char)} {raw last : List Char}
  {fault : SyntaxFault}

/-! ### Stray lines -/

/-- Lines that make up a property together: one of them has an `=`, and if nothing stands behind
the first of these, all lines after it are sub-properties. -/
def formsProperty : List (List Char) → Bool
  | [] => false
  | line :: more =>
    if '=' ∈ line then !blankValue line || more.all isSubProperty else formsProperty more

/-- There is a property between here and the nearest header above. -/
def BelowProperty (above : List (List Char)) : Prop :=
  ∃ front property between, above = front ++ property :: between ∧ isPlain property = true ∧
    '=' ∈ property ∧ ∀ line ∈ between, isHeader line = false

/-- What has to stand above and below a stray line for it to be accepted. -/
structure Propped (above below : List (List Char)) : Prop where
  /-- There is a property above it in its section. -/
  property : BelowProperty above
  /-- The lines folded onto it make up a property. -/
  marked : formsProperty (foldedBelow below) = true

/-- Each of some lines is fit to follow those before it. -/
def InOrder (group : List (List Char)) : Prop :=
  ∀ front raw back, group = front ++ raw :: back → awaitsKeys front = true →
    isSubProperty raw = true

theorem inOrder_cons {group : List (List Char)} : InOrder (last :: group) ↔
    ∀ front raw back, group = front ++ raw :: back → awaitsKeys (last :: front) = true →
      isSubProperty raw = true := by
  constructor
  · intro h front raw back hgroup
    exact h (last :: front) raw back (by rw [hgroup, List.cons_append])
  · intro h front raw back hsplit hawaits
    rcases front with - | ⟨head, front⟩
    · cases hawaits
    · obtain ⟨rfl, hgroup⟩ := List.cons.inj hsplit
      exact h front raw back hgroup hawaits

theorem formsProperty_iff {group : List (List Char)} :
    formsProperty group = true ↔ (∃ line ∈ group, '=' ∈ line) ∧ InOrder group := by
  induction group with
  | nil => simp [formsProperty]
  | cons line group ih =>
    rw [formsProperty, inOrder_cons]
    by_cases hmark : '=' ∈ line
    · -- this line decides what may follow
      have hmarked : ∃ marked ∈ line :: group, '=' ∈ marked := ⟨line, List.mem_cons_self, hmark⟩
      simp only [awaitsKeys, if_pos hmark, Bool.or_eq_true, Bool.not_eq_true', List.all_eq_true]
      constructor
      · intro h
        refine ⟨hmarked, fun front raw back hgroup hblank => ?_⟩
        exact h.resolve_left (by simp [hblank]) raw (by simp [hgroup])
      · rintro ⟨-, h⟩
        rcases hblank : blankValue line with - | -
        · exact .inl rfl
        · refine .inr fun raw hraw => ?_
          obtain ⟨front, back, hgroup⟩ := List.append_of_mem hraw
          exact h front raw back hgroup hblank
    · have hrest : (∃ marked ∈ line :: group, '=' ∈ marked) ↔ ∃ marked ∈ group, '=' ∈ marked := by
        simp [hmark]
      simp only [awaitsKeys, if_neg hmark]
      rw [ih, hrest, InOrder]

/-! ### Views, told from the last line that opens something -/

theorem View.header_after (view : View) (raw : List Char) :
    (view.after raw).header = (view.header || isHeader raw) := by
  unfold View.after
  rcases isHeader raw with - | -
  · rcases isPlain raw with - | -
    · rcases isFolded raw with - | - <;> simp
    · simp
  · simp

theorem viewOf_header (above : List (List Char)) : (viewOf above).header = above.any isHeader := by
  induction above using List.reverseRecOn with
  | nil => rfl
  | append_singleton above raw ih => simp [viewOf_append, View.header_after, ih]

theorem belowProperty_append_iff : BelowProperty (above ++ [raw]) ↔
    isPlain raw = true ∧ '=' ∈ raw ∨ BelowProperty above ∧ isHeader raw = false := by
  constructor
  · rintro ⟨front, property, between, hsplit, hplain, hmark, hbetween⟩
    rcases List.eq_nil_or_concat between with rfl | ⟨between, line, rfl⟩
    · obtain ⟨-, hraw⟩ := List.append_inj' hsplit rfl
      obtain rfl := List.singleton_inj.mp hraw
      exact .inl ⟨hplain, hmark⟩
    · rw [List.concat_eq_append, ← List.cons_append, ← List.append_assoc] at hsplit
      obtain ⟨habove, hraw⟩ := List.append_inj' hsplit rfl
      obtain rfl := List.singleton_inj.mp hraw
      refine .inr ⟨⟨front, property, between, habove, hplain, hmark, fun line hline => ?_⟩, ?_⟩
      · exact hbetween line (by simp [hline])
      · exact hbetween raw (by simp)
  · rintro (⟨hplain, hmark⟩ | ⟨⟨front, property, between, rfl, hplain, hmark, hbetween⟩, hheader⟩)
    · exact ⟨above, raw, [], rfl, hplain, hmark, by simp⟩
    · refine ⟨front, property, between ++ [raw], by simp, hplain, hmark, fun line hline => ?_⟩
      rcases List.mem_append.mp hline with hline | hline
      · exact hbetween line hline
      · rw [List.mem_singleton.mp hline]
        exact hheader

theorem viewOf_property_iff : (viewOf above).property = true ↔ BelowProperty above := by
  induction above using List.reverseRecOn with
  | nil => simp [viewOf, BelowProperty]
  | append_singleton above raw ih =>
    rw [viewOf_append, belowProperty_append_iff, ← ih, View.after]
    split
    · next hheader =>
      have hplain : isPlain raw = false := by simp [isPlain, hheader]
      simp [hheader, hplain]
    · next hheader =>
      split
      · next hplain => simp [hheader, hplain, or_comm]
      · next hplain => split <;> simp [hheader, hplain]

/-- Lines that open nothing join the group of the last line that does. -/
theorem viewOf_append_cons (h : ∀ line ∈ between, opens line = false)
    (front : List (List Char)) (hlast : opens last = true) :
    viewOf (front ++ last :: between)
      = { (viewOf front).after last with group := last :: between.filter isFolded } := by
  induction between using List.reverseRecOn with
  | nil =>
    rw [viewOf_append, View.after]
    split
    · rfl
    · next hheader =>
      rw [if_pos (by simpa [opens, hheader] using hlast)]
      rfl
  | append_singleton between raw ih =>
    obtain ⟨hheader, hplain⟩ := opens_eq_false_iff.mp (h raw (by simp))
    rw [← List.cons_append, ← List.append_assoc, viewOf_append,
      ih fun line hline => h line (by simp [hline]), View.after, if_neg (by simp [hheader]),
      if_neg (by simp [hplain]), List.filter_append]
    split
    · next hfolded => simp [hfolded]
    · next hfolded => simp [hfolded]

/-- The group below a plain line, and what is seen there besides. -/
theorem viewOf_of_plain (h : ∀ line ∈ between, opens line = false) (front : List (List Char))
    (hplain : isPlain last = true) :
    viewOf (front ++ last :: between)
      = ⟨front.any isHeader, (viewOf front).property || last.contains '=',
          last :: between.filter isFolded⟩ := by
  rw [viewOf_append_cons h front (by simp [opens, hplain]), View.after,
    if_neg (by simp [isHeader_of_isPlain hplain]), if_pos hplain, viewOf_header]

/-! ### Continuations that are in order -/

theorem View.fault?_eq_none_iff {view : View} : view.fault? raw = none ↔
    (isFolded raw = true → view.header = true ∧ view.property = true ∧
      (awaitsKeys view.group = true → isSubProperty raw = true)) := by
  unfold View.fault?
  rcases isFolded raw with - | -
  · simp
  · rcases view.header with - | -
    · simp
    · rcases view.property with - | -
      · simp
      · simp

theorem Sight.fault?_eq_none_iff {sight : Sight} : sight.fault? raw = none ↔
    (isFolded raw = true → sight.header = true ∧ ∃ owner, sight.owner = some owner ∧
      (blankValue owner = true → isSubProperty raw = true)) := by
  unfold Sight.fault?
  rcases isFolded raw with - | -
  · simp
  · rcases sight.header with - | -
    · simp
    · rcases sight.owner with - | owner
      · simp
      · simp

theorem sightOf_of_plain (h : ∀ line ∈ between, opens line = false) (front : List (List Char))
    (hplain : isPlain last = true) :
    sightOf (front ++ last :: between) = ⟨front.any isHeader, some last⟩ := by
  rw [sightOf_append_cons h, Sight.after, if_neg (by simp [isHeader_of_isPlain hplain]),
    if_pos hplain, sightOf_header]

/-- Between a continuation that is in order and the nearest header there is a plain line. -/
theorem exists_last_plain (hheader : above.any isHeader = true)
    (hbelow : ∀ front last between, above = front ++ last :: between → isHeader last = true →
      (∀ line ∈ between, opens line = false) → False) :
    ∃ front last between, above = front ++ last :: between ∧ isPlain last = true ∧
      ∀ line ∈ between, opens line = false := by
  obtain ⟨front, last, between, habove, hlast, hbetween⟩ := exists_last_of_header hheader
  rcases hkind : isHeader last with - | -
  · exact ⟨front, last, between, habove, by simpa [opens, hkind] using hlast, hbetween⟩
  · exact (hbelow front last between habove hkind hbetween).elim

/-- Where the view tells no fault, the sight tells none. -/
theorem sight_fault?_eq_none (h : (viewOf above).fault? raw = none) :
    (sightOf above).fault? raw = none := by
  refine Sight.fault?_eq_none_iff.mpr fun hfolded => ?_
  obtain ⟨hheader, hproperty, hawaits⟩ := View.fault?_eq_none_iff.mp h hfolded
  obtain ⟨front, last, between, rfl, hplain, hbetween⟩ :=
    exists_last_plain ((viewOf_header above).symm.trans hheader)
      fun front last between habove hlast hbetween => by
        rw [habove, viewOf_append_cons hbetween front (by simp [opens, hlast]), View.after,
          if_pos hlast] at hproperty
        cases hproperty
  rw [viewOf_of_plain hbetween front hplain] at hheader hawaits
  rw [sightOf_of_plain hbetween front hplain]
  refine ⟨hheader, last, rfl, fun hblank => ?_⟩
  have hmark : '=' ∈ last := by
    by_contra hmark
    rw [blankValue_of_not_mem hmark] at hblank
    cases hblank
  exact hawaits (by rw [awaitsKeys, if_pos hmark, hblank])

theorem foldedBelow_append (h : ∀ line ∈ between, opens line = false) (hraw : isFolded raw = true) :
    foldedBelow (between ++ raw :: rest) = between.filter isFolded ++ raw :: foldedBelow rest := by
  have hbetween : ∀ line ∈ between, (!opens line) = true := fun line hline => by simp [h line hline]
  rw [foldedBelow, List.takeWhile_append_of_pos hbetween,
    List.takeWhile_cons_of_pos (by simp [opens_of_isFolded hraw]), List.filter_append,
    List.filter_cons_of_pos hraw, foldedBelow]

/-- Where a folded line stands. -/
theorem split_of_foldedBelow {before after : List (List Char)}
    (h : foldedBelow below = before ++ raw :: after) :
    isFolded raw = true ∧ ∃ between rest, below = between ++ raw :: rest ∧
      between.filter isFolded = before ∧ ∀ line ∈ between, opens line = false := by
  obtain ⟨first, later, hsplit, hbefore, hlater⟩ := List.filter_eq_append_iff.mp h
  obtain ⟨skipped, others, rfl, hskipped, hraw, -⟩ := List.filter_eq_cons_iff.mp hlater
  refine ⟨hraw, first ++ skipped, others ++ below.dropWhile fun line => !opens line, ?_, ?_, ?_⟩
  · have hbelow := List.takeWhile_append_dropWhile (p := fun line => !opens line) (l := below)
    rw [hsplit] at hbelow
    simpa using hbelow.symm
  · rw [List.filter_append, hbefore, List.filter_eq_nil_iff.mpr hskipped, List.append_nil]
  · intro line hline
    have hmem : line ∈ below.takeWhile fun line => !opens line := by
      rw [hsplit, ← List.append_assoc]
      exact List.mem_append_left _ hline
    simpa using List.all_eq_true.mp List.all_takeWhile line hmem

/-! ### The first pass -/

/-- Where nothing is wrong and stray lines are propped, no line is at fault. -/
theorem view_fault?_eq_none (hnone : ∀ fault n, ¬Violation lines fault n)
    (hpropped : ∀ above raw below, lines = above ++ raw :: below → isPlain raw = true →
      '=' ∉ raw → Propped above below)
    (hlines : lines = above ++ raw :: below) : (viewOf above).fault? raw = none := by
  have hsight : (sightOf above).fault? raw = none := by
    by_contra hfault
    obtain ⟨fault, hfault⟩ := Option.ne_none_iff_exists'.mp hfault
    exact hnone fault _ (violation_of_sight hlines hfault)
  refine View.fault?_eq_none_iff.mpr fun hfolded => ?_
  obtain ⟨hheader, owner, howner, hblank⟩ := Sight.fault?_eq_none_iff.mp hsight hfolded
  obtain ⟨front, last, between, rfl, hplain, hbetween⟩ :=
    exists_last_plain ((sightOf_header above).symm.trans hheader)
      fun front last between habove hlast hbetween => by
        rw [habove, sightOf_append_cons hbetween front, Sight.after, if_pos hlast] at howner
        cases howner
  rw [sightOf_of_plain hbetween front hplain] at hheader howner
  cases howner
  rw [viewOf_of_plain hbetween front hplain]
  by_cases hmark : '=' ∈ owner
  · refine ⟨hheader, by simp [hmark], fun hawaits => hblank ?_⟩
    rwa [awaitsKeys, if_pos hmark] at hawaits
  · -- the line belongs to a stray one, and is among those that make up for it
    have hstray : Propped front (between ++ raw :: below) :=
      hpropped front owner _ (by rw [hlines]; simp) hplain hmark
    refine ⟨hheader, ?_, fun hawaits => ?_⟩
    · rw [viewOf_property_iff.mpr hstray.property, Bool.true_or]
    · rw [awaitsKeys, if_neg hmark] at hawaits
      have hforms := hstray.marked
      rw [foldedBelow_append hbetween hfolded] at hforms
      exact (formsProperty_iff.mp hforms).2 _ raw _ rfl hawaits

/-! ### The second pass -/

theorem mark_mem_intercalate_iff {pieces : List (List Char)} :
    '=' ∈ List.intercalate ['\n'] pieces ↔ ∃ piece ∈ pieces, '=' ∈ piece := by
  induction pieces with
  | nil => simp
  | cons piece pieces ih =>
    rcases pieces with - | ⟨next, pieces⟩
    · simp
    · rw [List.intercalate_cons_cons, List.mem_append, ih]
      simp

/-- The content of a logical line has an `=` if one of its physical lines has one. -/
theorem mark_mem_content_iff {n : Nat} {folded : List (List Char)} :
    '=' ∈ (Line.mk n raw (folded.map Text.trim)).content ↔
      '=' ∈ raw ∨ ∃ line ∈ folded, '=' ∈ line := by
  rw [Line.content, mark_mem_intercalate_iff]
  simp [mark_mem_trim_iff]

namespace Grouping

open Operation

variable {kind : FileKind} {state state' : Grouping} {line : Line}
  {warnings warnings' : List String}

/-- A line that is no header and has no `=` ends the pass. -/
theorem outcome_step_unmarked (hheader : isHeader line.first = false) (hmark : '=' ∉ line.content) :
    (step kind state line).outcome warnings
      = (.error (.config .expectedProperty line.number), warnings) := by
  rw [step, if_neg (by simp [hheader]), if_pos (by simpa using hmark)]
  rfl

/-- A pass that ends well has met no such line. -/
theorem isEntry_of_foldlM {logical : List Line}
    (h : (logical.foldlM (step kind) state).outcome warnings = (.ok state', warnings')) :
    ∀ line ∈ logical, IsEntry line := by
  induction logical generalizing state warnings with
  | nil => simp
  | cons line logical ih =>
    rw [List.foldlM_cons] at h
    obtain ⟨next, warnings'', hstep, hrest⟩ := outcome_bind_eq_ok_iff.mp h
    have hentry : IsEntry line := by
      intro hheader
      by_contra hmark
      rw [outcome_step_unmarked hheader hmark] at hstep
      cases hstep
    exact List.forall_mem_cons.mpr ⟨hentry, ih hrest⟩

end Grouping

/-! ### The parser -/

variable {kind : FileKind} {text : String}

/-- The parser succeeds if both passes do: putting the sections together never fails. -/
theorem exists_parse_iff_passes : (∃ file, (File.parse kind text).1 = .ok file) ↔
    ∃ logical, foldLines text.toList = .ok logical ∧ (∀ line ∈ logical, Grouping.IsEntry line) ∧
      Grouping.fault? logical = none := by
  rw [File.parse, File.read, Operation.outcome_bind, Operation.outcome_ofExcept]
  rcases foldLines text.toList with e | logical
  · simp
  dsimp only
  constructor
  · rintro ⟨file, hfile⟩
    obtain ⟨grouping, warnings, hpass, -⟩ :=
      Operation.outcome_bind_eq_ok_iff.mp (Prod.ext hfile rfl)
    have hentries := Grouping.isEntry_of_foldlM hpass
    have hstart := @Grouping.foldlM_start kind [] logical hentries
    refine ⟨logical, rfl, hentries, ?_⟩
    rcases hfault : Grouping.fault? logical with - | e
    · rfl
    · rw [hfault] at hstart
      obtain ⟨warnings', herror⟩ := hstart
      rw [hpass] at herror
      cases herror
  · rintro ⟨_, ⟨rfl⟩, hentries, hnone⟩
    have hstart := @Grouping.foldlM_start kind [] logical hentries
    rw [hnone] at hstart
    obtain ⟨grouping, warnings, hpass⟩ := hstart
    have hadd : (grouping.sections.foldlM (File.add kind) {}).Ensures fun _ => True :=
      Operation.ensures_foldlM (fun file entry _ => ensures_add file entry) trivial
    obtain ⟨file, warnings', hfile, -⟩ := hadd warnings
    refine ⟨file, ?_⟩
    rw [Operation.outcome_bind, hpass]
    dsimp only
    rw [hfile]

/-- In a text that is accepted, stray lines are propped. -/
theorem propped_of_passes
    (hfaultless : ∀ above raw below, lines = above ++ raw :: below →
      (viewOf above).fault? raw = none)
    (hentries : ∀ line ∈ logicalFrom 1 lines, Grouping.IsEntry line)
    (hlines : lines = above ++ raw :: below) (hplain : isPlain raw = true) (hmark : '=' ∉ raw) :
    Propped above below := by
  have hentry := hentries _ (mem_logicalFrom_iff.mpr
    ⟨above, raw, below, hlines, by simp [opens, hplain], rfl⟩) (isHeader_of_isPlain hplain)
  obtain ⟨line, hline, hmarked⟩ := (mark_mem_content_iff.mp hentry).resolve_left hmark
  -- each line folded onto the stray one was in order
  have hfolded : ∀ {before line after}, foldedBelow below = before ++ line :: after →
      BelowProperty above ∧ (awaitsKeys before = true → isSubProperty line = true) := by
    intro before line after hsplit
    obtain ⟨hfold, between, rest, rfl, rfl, hbetween⟩ := split_of_foldedBelow hsplit
    have hnone := hfaultless (above ++ raw :: between) line rest (by rw [hlines]; simp)
    rw [viewOf_of_plain hbetween above hplain] at hnone
    obtain ⟨-, hproperty, hawaits⟩ := View.fault?_eq_none_iff.mp hnone hfold
    refine ⟨viewOf_property_iff.mp (by simpa [hmark] using hproperty), fun h => hawaits ?_⟩
    rw [awaitsKeys, if_neg hmark, h]
  obtain ⟨before, after, hsplit⟩ := List.append_of_mem hline
  exact ⟨(hfolded hsplit).1,
    formsProperty_iff.mpr ⟨⟨line, hline, hmarked⟩, fun _ _ _ h => (hfolded h).2⟩⟩

/-- **What the parser accepts, of all texts**: those in which no line breaks a rule and the stray
lines are propped. -/
theorem exists_parse_iff (kind : FileKind) (text : String) :
    (∃ file, (File.parse kind text).1 = .ok file) ↔
      (∀ fault n, ¬Violation (Text.lines text.toList) fault n) ∧
      ∀ above raw below, Text.lines text.toList = above ++ raw :: below → isPlain raw = true →
        '=' ∉ raw → Propped above below := by
  rw [exists_parse_iff_passes]
  constructor
  · -- a text that is accepted: both passes tell what its lines are
    rintro ⟨logical, hfold, hentries, hgrouping⟩
    have hfaultless := exists_foldLines_iff.mp ⟨logical, hfold⟩
    rw [eq_of_foldLines hfold] at hentries hgrouping
    refine ⟨fun fault n => ?_, fun above raw below => propped_of_passes hfaultless hentries⟩
    refine not_violation (fun above raw below h => ?_) (opened_logicalFrom _) hgrouping
    exact sight_fault?_eq_none (hfaultless above raw below h)
  · -- the other way round each pass is shown to go through, the first one first
    rintro ⟨hnone, hpropped⟩
    obtain ⟨logical, hfold⟩ := exists_foldLines_iff.mpr fun above raw below =>
      view_fault?_eq_none hnone hpropped
    have hlogical := eq_of_foldLines hfold
    refine ⟨logical, hfold, ?_, ?_⟩
    · rw [hlogical]
      intro line hline hheader
      obtain ⟨above, raw, below, hlines, hopens, rfl⟩ := mem_logicalFrom_iff.mp hline
      have hnot : isHeader raw = false := hheader
      have hplain : isPlain raw = true := by simpa [opens, hnot] using hopens
      rw [mark_mem_content_iff]
      by_cases hmark : '=' ∈ raw
      · exact .inl hmark
      · exact .inr (formsProperty_iff.mp (hpropped above raw below hlines hplain hmark).marked).1
    · by_contra hfault
      obtain ⟨e, hfault⟩ := Option.ne_none_iff_exists'.mp hfault
      obtain ⟨fault, n, -, hviolation⟩ :=
        violation_of_grouping (hlogical ▸ opened_logicalFrom _) hfault
      exact hnone fault n hviolation

/-- A stray line between a property and a continuation with an `=`. -/
def strayText : String := "[default]\nregion = eu-west-1\nstray\n  key = value\n"

/-- A text may be accepted although a line of it is no property. -/
theorem not_isRegular_of_parse :
    ¬((∃ file, (File.parse .config strayText).1 = .ok file) →
      ∀ raw ∈ Text.lines strayText.toList, IsRegular raw) := by
  intro h
  have hregular := h ⟨_, rfl⟩ "stray".toList (by decide)
  exact absurd (hregular (by decide)) (by decide)

end AwsSigning.SharedConfig
