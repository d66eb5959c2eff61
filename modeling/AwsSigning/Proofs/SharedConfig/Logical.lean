/-
AwsSigning/Proofs/SharedConfig/Logical.lean

The first pass over any text, also one with lines that are no properties.

What folding does with a line depends on three things above it (`View`): there
has been a header, there has been a property under it, and the group of lines
that a continuation would join.  Of the group it is asked whether the first of
its lines with an `=` has nothing behind it (`awaitsKeys`); the line that opens
the group need not be that line.

A state mirrors a view (`Folding.Mirrors`), and one more line either is at
fault, as the view tells, or leads to a state that mirrors the view of it
(`step_mirrors`).  So the pass succeeds exactly if no line is at fault
(`exists_foldLines_iff`), and then what it gives can be told without it: every
line that opens something, with the lines that are folded onto it
(`logicalFrom`).
-/
import AwsSigning.Proofs.SharedConfig.Grammar
import AwsSigning.Proofs.Text.Blank

namespace AwsSigning.SharedConfig

variable {lines above between front below rest : List (List Char)} {raw last : List Char}

/-! ### Values over several lines -/

theorem mark_not_mem_of_isBlankText (h : Text.isBlankText raw = true) : '=' ∉ raw := by
  intro hmem
  have hblank : Text.isBlank '=' = true := List.all_eq_true.mp h '=' hmem
  exact absurd hblank (by decide)

/-- Trimming a line does not change whether there is anything behind its `=`. -/
theorem blankValue_trim (raw : List Char) : blankValue (Text.trim raw) = blankValue raw := by
  obtain ⟨front, back, hraw, hfront, hback⟩ := Text.exists_trim raw
  conv => rhs; rw [hraw]
  rw [List.append_assoc, blankValue_append, if_neg (mark_not_mem_of_isBlankText hfront),
    blankValue_append, hback, Bool.and_true,
    blankValue_of_not_mem (mark_not_mem_of_isBlankText hback)]
  split
  · rfl
  · next hnone => exact blankValue_of_not_mem hnone

/-- The first of some lines with an `=` has nothing behind it. -/
def awaitsKeys : List (List Char) → Bool
  | [] => false
  | line :: more => if '=' ∈ line then blankValue line else awaitsKeys more

theorem awaitsKeys_append (front back : List (List Char)) :
    awaitsKeys (front ++ back)
      = if ∃ line ∈ front, '=' ∈ line then awaitsKeys front else awaitsKeys back := by
  induction front with
  | nil => simp
  | cons line front ih =>
    by_cases hmark : '=' ∈ line
    · simp [awaitsKeys, hmark]
    · simp [awaitsKeys, hmark, ih]

theorem awaitsKeys_singleton (raw : List Char) : awaitsKeys [raw] = blankValue raw := by
  by_cases hmark : '=' ∈ raw
  · simp [awaitsKeys, hmark]
  · simp [awaitsKeys, hmark, blankValue_of_not_mem hmark]

theorem mark_mem_trim_iff : '=' ∈ Text.trim raw ↔ '=' ∈ raw := Text.mem_trim_iff (by decide)

theorem awaitsKeys_of_unmarked {group : List (List Char)} (h : ∀ line ∈ group, '=' ∉ line) :
    awaitsKeys group = false := by
  induction group with
  | nil => rfl
  | cons line group ih =>
    rw [awaitsKeys, if_neg (h line List.mem_cons_self)]
    exact ih fun x hx => h x (List.mem_cons_of_mem line hx)

theorem awaitsKeys_map_trim (group : List (List Char)) :
    awaitsKeys (group.map Text.trim) = awaitsKeys group := by
  induction group with
  | nil => rfl
  | cons line group ih =>
    rw [List.map_cons, awaitsKeys, awaitsKeys, ih, blankValue_trim]
    simp only [mark_mem_trim_iff]

/-- The first line of a group need not be trimmed like the others. -/
theorem awaitsKeys_cons_map_trim (first : List Char) (folded : List (List Char)) :
    awaitsKeys (first :: folded.map Text.trim) = awaitsKeys (first :: folded) := by
  rw [awaitsKeys, awaitsKeys, awaitsKeys_map_trim]

/-- Only the first line with an `=` can be followed by nothing but white space. -/
theorem awaitsKeys_of_blankValue {group : List (List Char)}
    (h : blankValue (List.intercalate ['\n'] group) = true) : awaitsKeys group = true := by
  induction group with
  | nil => cases h
  | cons line group ih =>
    rcases group with - | ⟨next, group⟩
    · rw [awaitsKeys_singleton]
      simpa using h
    · rw [List.intercalate_cons_cons, List.append_assoc, blankValue_append] at h
      rw [awaitsKeys]
      split at h
      · next hmark =>
        rw [if_pos hmark]
        exact (Bool.and_eq_true_iff.mp h).1
      · next hmark =>
        rw [if_neg hmark]
        rw [blankValue_append, if_neg (by decide)] at h
        exact ih h

/-- As long as there has been no `=`, the value is that of the last line. -/
theorem blankValue_intercalate_of_unmarked {group : List (List Char)}
    (h : ∀ line ∈ group, '=' ∉ line) (raw : List Char) :
    blankValue (List.intercalate ['\n'] (group ++ [raw])) = blankValue raw := by
  induction group with
  | nil => simp
  | cons line group ih =>
    have hrest := ih fun x hx => h x (List.mem_cons_of_mem line hx)
    obtain ⟨next, more, hmore⟩ : ∃ next more, group ++ [raw] = next :: more :=
      List.exists_cons_of_ne_nil (by simp)
    rw [List.cons_append, hmore, List.intercalate_cons_cons, ← hmore, List.append_assoc,
      blankValue_append, if_neg (h line List.mem_cons_self), blankValue_append,
      if_neg (by decide), hrest]

/-! ### What a line depends on -/

/-- What is to be seen above a line. -/
structure View where
  /-- There is a header. -/
  header : Bool := false
  /-- There is a property under the last header. -/
  property : Bool := false
  /-- The last line that opens something, and the lines folded onto it. -/
  group : List (List Char) := []

namespace View

/-- What is to be seen below one more line. -/
def after (view : View) (raw : List Char) : View :=
  if isHeader raw then { header := true, group := [raw] }
  else if isPlain raw then
    { view with property := view.property || raw.contains '=', group := [raw] }
  else if isFolded raw then { view with group := view.group ++ [raw] }
  else view

/-- What is wrong with a line. -/
def fault? (view : View) (raw : List Char) : Option SyntaxFault :=
  if isFolded raw then
    if !view.header then some .expectedSection
    else if !view.property then some .expectedProperty
    else if awaitsKeys view.group && !isSubProperty raw then some .expectedSubProperty
    else none
  else none

end View

/-- What is to be seen below some lines. -/
def viewOf (above : List (List Char)) : View := above.foldl View.after {}

theorem viewOf_append (above : List (List Char)) (raw : List Char) :
    viewOf (above ++ [raw]) = (viewOf above).after raw := by
  rw [viewOf, List.foldl_append]
  rfl

namespace Folding

variable {state state' : Folding} {view : View} {n : Nat}

/-- How far folding has come, told from what is to be seen. -/
structure Mirrors (state : Folding) (view : View) : Prop where
  inSection : state.inSection = view.header
  inProperty : state.inProperty = view.property
  /-- Below a property the last logical line is the group, and it is known what it awaits. -/
  group : view.property = true → ∃ last before first folded, state.lines = last :: before ∧
    view.group = first :: folded ∧ last.first = first ∧ last.folded = folded.map Text.trim ∧
    (state.inBlock || last.hasBlankValue) = awaitsKeys view.group

theorem mirrors_nil : Mirrors {} {} := ⟨rfl, rfl, by simp⟩

/-- The value of a logical line that grows. -/
theorem hasBlankValue_fold {l : Line} {first : List Char} {folded : List (List Char)}
    (hfirst : l.first = first) (hfolded : l.folded = folded.map Text.trim) (raw : List Char) :
    (awaitsKeys (first :: folded) || (l.fold raw).hasBlankValue)
      = awaitsKeys (first :: folded ++ [raw]) := by
  have hvalue : (l.fold raw).hasBlankValue
      = blankValue (List.intercalate ['\n'] (first :: (folded ++ [raw]).map Text.trim)) := by
    rw [List.map_append, ← hfirst, ← hfolded]
    rfl
  rw [hvalue, awaitsKeys_append]
  split
  · next hmarked =>
    -- the `=` is there already, so the longer value is blank only if the shorter one was
    have hshorter : awaitsKeys (first :: (folded ++ [raw])) = awaitsKeys (first :: folded) := by
      rw [← List.cons_append, awaitsKeys_append, if_pos hmarked]
    apply Bool.or_eq_left_iff_imp.mpr
    intro hblank
    rw [← hshorter, ← awaitsKeys_cons_map_trim]
    exact awaitsKeys_of_blankValue hblank
  · next hunmarked =>
    have hnone : ∀ line ∈ first :: folded, '=' ∉ line := fun line hline hmark =>
      hunmarked ⟨line, hline, hmark⟩
    have hnone' : ∀ line ∈ first :: folded.map Text.trim, '=' ∉ line := by
      simpa [mark_mem_trim_iff] using hnone
    rw [awaitsKeys_of_unmarked hnone, Bool.false_or, awaitsKeys_singleton, List.map_append,
      List.map_singleton, ← List.cons_append, blankValue_intercalate_of_unmarked hnone',
      blankValue_trim]

/-- **One more line** is at fault, or the state mirrors the view of it as well. -/
theorem step_mirrors (h : state.Mirrors view) (n : Nat) (raw : List Char) :
    match view.fault? raw with
    | some fault => state.step n raw = .error (.config fault n)
    | none => ∃ state', state.step n raw = .ok state' ∧ state'.Mirrors (view.after raw) := by
  rcases line_cases raw with hskip | hheader | hfolded | hplain
  · have hsame : view.after raw = view := by
      obtain ⟨hheader, hplain⟩ := opens_eq_false_iff.mp (opens_of_isSkipped hskip)
      simp [View.after, hheader, hplain, isFolded, hskip]
    have hnone : view.fault? raw = none := by simp [View.fault?, isFolded, hskip]
    rw [hnone, hsame]
    exact ⟨state, step_of_isSkipped hskip state n, h⟩
  · have hcontinuation : isContinuation raw = false := (not_isSkipped_of_isHeader hheader).2
    have hnone : view.fault? raw = none := by simp [View.fault?, isFolded, hcontinuation]
    rw [hnone, View.after, if_pos hheader]
    exact ⟨_, step_of_isHeader hheader state n, rfl, rfl, by simp⟩
  · obtain ⟨hheader, hplain⟩ := opens_eq_false_iff.mp (opens_of_isFolded hfolded)
    -- the three checks are made in the order in which the view is looked at
    rw [step_of_isFolded hfolded, continueWith, View.fault?, if_pos hfolded, h.inSection,
      h.inProperty]
    rcases hsection : view.header with - | -
    · rfl
    rcases hproperty : view.property with - | -
    · rfl
    obtain ⟨last, before, first, folded, hlines, hgroup, hfirst, hlast, hvalue⟩ := h.group hproperty
    rw [hlines]
    dsimp only
    rw [hvalue]
    rcases hawaits : (awaitsKeys view.group && !isSubProperty raw) with - | -
    · refine ⟨{ state with lines := last.fold raw :: before, inBlock := awaitsKeys view.group },
        by simp [h.inSection, hsection, h.inProperty, hproperty], ?_⟩
      rw [View.after, if_neg (by simp [hheader]), if_neg (by simp [hplain]), if_pos hfolded]
      refine ⟨h.inSection, h.inProperty, fun _ => ⟨last.fold raw, before, first,
        folded ++ [raw], rfl, by simp [hgroup], hfirst, by simp [Line.fold, hlast], ?_⟩⟩
      rw [hgroup]
      exact hasBlankValue_fold hfirst hlast raw
    · simp
  · obtain ⟨-, hheader, hcontinuation⟩ := isPlain_iff.mp hplain
    have hnone : view.fault? raw = none := by simp [View.fault?, isFolded, hcontinuation]
    rw [hnone, View.after, if_neg (by simp [hheader]), if_pos hplain]
    refine ⟨_, step_of_isPlain hplain state n, h.inSection,
      congrArg (· || raw.contains '=') h.inProperty,
      fun _ => ⟨⟨n, raw, []⟩, state.lines, raw, [], rfl, rfl, rfl, rfl, ?_⟩⟩
    rw [Bool.false_or, awaitsKeys_singleton]
    exact Line.hasBlankValue_of_folded rfl

/-- **A run succeeds if no line is at fault.** -/
theorem exists_run_iff (h : state.Mirrors view) (n : Nat) :
    (∃ state', state.run n rest = .ok state') ↔
      ∀ front raw below, rest = front ++ raw :: below →
        (front.foldl View.after view).fault? raw = none := by
  -- the induction is on the lines to come; those that were folded move over to the view
  induction rest generalizing state view n with
  | nil => exact ⟨by simp, fun _ => ⟨state, rfl⟩⟩
  | cons raw rest ih =>
    have hstep := step_mirrors h n raw
    rcases hfault : view.fault? raw with - | fault
    · rw [hfault] at hstep
      obtain ⟨next, hnext, hmirrors⟩ := hstep
      have hrun : state.run n (raw :: rest) = next.run (n + 1) rest := by rw [run, hnext]
      rw [hrun, ih hmirrors (n + 1)]
      constructor
      · intro hrest front line below hsplit
        rcases front with - | ⟨head, front⟩
        · obtain ⟨rfl, -⟩ := List.cons.inj hsplit
          exact hfault
        · obtain ⟨rfl, htail⟩ := List.cons.inj hsplit
          exact hrest front line below htail
      · intro hall front line below hrest
        exact hall (raw :: front) line below (by rw [hrest, List.cons_append])
    · rw [hfault] at hstep
      have hrun : state.run n (raw :: rest) = .error (.config fault n) := by rw [run, hstep]
      rw [hrun]
      refine ⟨by simp, fun hall => ?_⟩
      have hnone : view.fault? raw = none := hall [] raw rest rfl
      rw [hfault] at hnone
      cases hnone

/-- A continuation that is taken in is folded onto the last logical line. -/
theorem exists_of_continueWith (h : state.continueWith n raw = .ok state') :
    ∃ last before, state.lines = last :: before ∧ state' = { state with
      lines := last.fold raw :: before, inBlock := state.inBlock || last.hasBlankValue } := by
  rw [continueWith] at h
  split at h
  · cases h
  split at h
  · cases h
  split at h
  · cases h
  · next last before hlines =>
    dsimp only at h
    split at h
    · cases h
    · cases h
      exact ⟨last, before, hlines, rfl⟩

/-- What a line that is taken in does to the logical lines. -/
theorem lines_of_step (h : state.step n raw = .ok state') :
    state'.lines = if opens raw then ⟨n, raw, []⟩ :: state.lines
      else if isFolded raw then state.lines.modifyHead (·.fold raw) else state.lines := by
  rcases line_cases raw with hskip | hheader | hfolded | hplain
  · rw [if_neg (by simp [opens_of_isSkipped hskip]), if_neg (by simp [isFolded, hskip])]
    rw [step_of_isSkipped hskip] at h
    cases h
    rfl
  · rw [if_pos (by simp [opens, hheader])]
    rw [step_of_isHeader hheader] at h
    cases h
    rfl
  · rw [if_neg (by simp [opens_of_isFolded hfolded]), if_pos hfolded]
    rw [step_of_isFolded hfolded] at h
    obtain ⟨last, before, hlines, rfl⟩ := exists_of_continueWith h
    rw [hlines]
    rfl
  · rw [if_pos (by simp [opens, hplain])]
    rw [step_of_isPlain hplain] at h
    cases h
    rfl

end Folding

/-! ### Logical lines -/

/-- The lines that are folded onto the line above them. -/
def foldedBelow (below : List (List Char)) : List (List Char) :=
  (below.takeWhile fun line => !opens line).filter isFolded

/-- The logical lines of some physical lines that are counted from a number. -/
def logicalFrom : Nat → List (List Char) → List Line
  | _, [] => []
  | n, raw :: below =>
    if opens raw then ⟨n, raw, (foldedBelow below).map Text.trim⟩ :: logicalFrom (n + 1) below
    else logicalFrom (n + 1) below

/-- The line with more lines folded onto it. -/
def Line.foldAll (l : Line) (more : List (List Char)) : Line :=
  { l with folded := l.folded ++ more.map Text.trim }

theorem Line.foldAll_nil (l : Line) : l.foldAll [] = l := by simp [foldAll]

theorem Line.foldAll_cons (l : Line) (raw : List Char) (more : List (List Char)) :
    l.foldAll (raw :: more) = (l.fold raw).foldAll more := by
  simp [foldAll, fold]

theorem foldedBelow_of_opens (h : opens raw = true) : foldedBelow (raw :: below) = [] := by
  simp [foldedBelow, h]

theorem foldedBelow_cons (h : opens raw = false) :
    foldedBelow (raw :: below)
      = if isFolded raw then raw :: foldedBelow below else foldedBelow below := by
  rw [foldedBelow, List.takeWhile_cons_of_pos (by simp [h]), List.filter_cons]
  rfl

/-- Nothing is folded across a line that opens something. -/
theorem foldedBelow_append_of_opens (h : ∀ line ∈ below.head?, opens line = true)
    (above : List (List Char)) : foldedBelow (above ++ below) = foldedBelow above := by
  induction above with
  | nil =>
    rcases below with - | ⟨first, below⟩
    · rfl
    · exact foldedBelow_of_opens (h first rfl)
  | cons raw above ih =>
    rw [List.cons_append]
    rcases hopens : opens raw with - | -
    · rw [foldedBelow_cons hopens, foldedBelow_cons hopens, ih]
    · rw [foldedBelow_of_opens hopens, foldedBelow_of_opens hopens]

/-- **A run that succeeds gives the logical lines**, the first of them perhaps as the end of a
line that was there before. -/
theorem Folding.lines_of_run {state state' : Folding} {n : Nat}
    (h : state.run n rest = .ok state') :
    state'.lines.reverse
      = (state.lines.modifyHead (·.foldAll (foldedBelow rest))).reverse ++ logicalFrom n rest := by
  induction rest generalizing state n with
  | nil =>
    cases h
    rcases state'.lines with - | ⟨last, before⟩
    · rfl
    · simp [foldedBelow, Line.foldAll_nil, logicalFrom]
  | cons raw rest ih =>
    rw [run] at h
    split at h
    · next next hstep =>
      rw [ih h, lines_of_step hstep, logicalFrom]
      by_cases hopens : opens raw = true
      · -- the line opens a logical line of its own, and the one before it is complete
        rw [if_pos hopens, if_pos hopens, foldedBelow_of_opens hopens]
        rcases state.lines with - | ⟨last, before⟩
        · simp [Line.foldAll]
        · simp [Line.foldAll]
      · rw [if_neg hopens, if_neg hopens, foldedBelow_cons (by simpa using hopens)]
        split
        · rcases state.lines with - | ⟨last, before⟩
          · rfl
          · rw [List.modifyHead_cons, List.modifyHead_cons, List.modifyHead_cons, Line.foldAll_cons]
        · rfl
    · cases h

theorem mem_logicalFrom_iff {l : Line} {n : Nat} : l ∈ logicalFrom n lines ↔
    ∃ above raw below, lines = above ++ raw :: below ∧ opens raw = true ∧
      l = ⟨n + above.length, raw, (foldedBelow below).map Text.trim⟩ := by
  induction lines generalizing n with
  | nil => simp [logicalFrom]
  | cons raw lines ih =>
    -- a line of the rest has one line more above it
    have hrest : l ∈ logicalFrom (n + 1) lines ↔ ∃ above first below,
        raw :: lines = (raw :: above) ++ first :: below ∧ opens first = true ∧
          l = ⟨n + (raw :: above).length, first, (foldedBelow below).map Text.trim⟩ := by
      rw [ih]
      simp [Nat.add_comm, Nat.add_left_comm]
    rw [logicalFrom]
    constructor
    · intro h
      split at h
      · next hopens =>
        rcases List.mem_cons.mp h with rfl | h
        · exact ⟨[], raw, lines, rfl, hopens, rfl⟩
        · obtain ⟨above, first, below, hsplit⟩ := hrest.mp h
          exact ⟨raw :: above, first, below, hsplit⟩
      · obtain ⟨above, first, below, hsplit⟩ := hrest.mp h
        exact ⟨raw :: above, first, below, hsplit⟩
    · rintro ⟨above, first, below, hsplit, hopens, hl⟩
      rcases above with - | ⟨head, above⟩
      · obtain ⟨rfl, rfl⟩ := List.cons.inj hsplit
        rw [if_pos hopens, hl]
        exact List.mem_cons_self
      · obtain ⟨rfl, -⟩ := List.cons.inj hsplit
        have hmem := hrest.mpr ⟨above, first, below, hsplit, hopens, hl⟩
        split
        · exact List.mem_cons_of_mem _ hmem
        · exact hmem

/-- The logical lines are those that the physical lines open. -/
theorem opened_logicalFrom (lines : List (List Char)) : Opened (logicalFrom 1 lines) lines := by
  suffices h : ∀ n, (logicalFrom n lines).map (fun l => (l.first, l.number))
      = (lines.zipIdx n).filter fun line => opens line.1 from h 1
  -- the lines below the first one are counted from the next number
  induction lines with
  | nil => intro n; rfl
  | cons raw lines ih =>
    intro n
    rw [logicalFrom, List.zipIdx_cons, List.filter_cons]
    split
    · rw [List.map_cons, ih]
    · rw [ih]

/-- **The first pass succeeds if no line is at fault.** -/
theorem exists_foldLines_iff {text : List Char} : (∃ logical, foldLines text = .ok logical) ↔
    ∀ above raw below, Text.lines text = above ++ raw :: below →
      (viewOf above).fault? raw = none := by
  rw [foldLines]
  refine Iff.trans ?_ (Folding.exists_run_iff Folding.mirrors_nil 1)
  rcases Folding.run {} 1 (Text.lines text) with e | state
  · simp [Except.map]
  · simp [Except.map]

/-- **What the first pass gives.** -/
theorem eq_of_foldLines {text : List Char} {logical : List Line}
    (h : foldLines text = .ok logical) : logical = logicalFrom 1 (Text.lines text) := by
  rw [foldLines] at h
  rcases hrun : Folding.run {} 1 (Text.lines text) with e | state
  · rw [hrun] at h
    cases h
  · rw [hrun] at h
    cases h
    exact Folding.lines_of_run hrun

end AwsSigning.SharedConfig
