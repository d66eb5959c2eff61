/-
AwsSigning/Proofs/SharedConfig/Outcome.lean

What parsing comes to, told from the lines of a text.

Each pass fails at the first line that is at fault in it.  In the first pass that
is a continuation (`foldingFault?`), in the second one a line that opens a
logical line and is neither a good header nor a property with a place
(`groupingFault?`).  A text in which nothing is at fault is read, and what comes
out is the file that its statements make (`fileOf`).

So the outcome is a function of the lines (`outcomeOf`, `parse_eq`).  Whether two
texts are read alike can then be told from their lines, without following the two
passes side by side.
-/
import AwsSigning.Proofs.SharedConfig.Contents
import AwsSigning.Proofs.SharedConfig.Stray

namespace AwsSigning.SharedConfig

open Operation

variable {kind : FileKind} {lines below : List (List Char)} {raw : List Char} {n : Nat}

/-! ### The first pass -/

/-- The first line that is at fault as a continuation, given what is to be seen above. -/
def foldingFault? : View → Nat → List (List Char) → Option (SyntaxFault × Nat)
  | _, _, [] => none
  | view, n, raw :: below =>
    ((view.fault? raw).map fun fault => (fault, n)).or
      (foldingFault? (view.after raw) (n + 1) below)

/-- **A run fails at the first line that is at fault**, if there is one. -/
theorem Folding.run_eq {state : Folding} {view : View} (h : state.Mirrors view) (n : Nat)
    (lines : List (List Char)) :
    match foldingFault? view n lines with
    | some (fault, m) => state.run n lines = .error (.config fault m)
    | none => ∃ state', state.run n lines = .ok state' := by
  -- the induction is on the lines to come, for every state that mirrors what is above them
  induction lines generalizing state view n with
  | nil => exact ⟨state, rfl⟩
  | cons raw lines ih =>
    have hstep := step_mirrors h n raw
    rw [foldingFault?]
    rcases hfault : view.fault? raw with - | fault
    · rw [hfault] at hstep
      obtain ⟨next, hnext, hmirrors⟩ := hstep
      have hrun : state.run n (raw :: lines) = next.run (n + 1) lines := by rw [run, hnext]
      rw [hrun]
      exact ih hmirrors (n + 1)
    · rw [hfault] at hstep
      show state.run n (raw :: lines) = .error (.config fault n)
      rw [run, hstep]

/-- **The first pass**: it fails at the first line that is at fault, or it gives the logical
lines. -/
theorem foldLines_eq (text : List Char) :
    foldLines text = match foldingFault? {} 1 (Text.lines text) with
      | some (fault, n) => .error (.config fault n)
      | none => .ok (logicalFrom 1 (Text.lines text)) := by
  have hrun := Folding.run_eq Folding.mirrors_nil 1 (Text.lines text)
  rcases hfault : foldingFault? {} 1 (Text.lines text) with - | ⟨fault, n⟩
  · rw [hfault] at hrun
    obtain ⟨state, hstate⟩ := hrun
    have hfold : foldLines text = .ok state.lines.reverse := by
      rw [foldLines, hstate]
      rfl
    rw [hfold, eq_of_foldLines hfold]
  · rw [hfault] at hrun
    rw [foldLines, hrun]
    rfl

/-! ### The second pass -/

/-- What is wrong with a line that opens a logical line, given whether there is a place for
properties and which lines are folded onto it. -/
def entryFault? (placed : Bool) (raw : List Char) (folded : List (List Char)) :
    Option SyntaxFault :=
  if isHeader raw then closingFault? raw
  else if ∃ line ∈ raw :: folded, '=' ∈ line then
    if placed then none else some .expectedSection
  else some .expectedProperty

/-- The first line that is at fault as a header or a property. -/
def groupingFault? : Bool → Nat → List (List Char) → Option (SyntaxFault × Nat)
  | _, _, [] => none
  | placed, n, raw :: below =>
    ((if opens raw then entryFault? placed raw (foldedBelow below) else none).map
      fun fault => (fault, n)).or (groupingFault? (placed || isHeader raw) (n + 1) below)

namespace Grouping

variable {state : Grouping} {placed : Bool} {warnings : List String}

/-- **One more logical line** is at fault, or it leads to a place as it should. -/
theorem outcome_step (hplaced : placed = true ↔ state.place ≠ .nowhere) (n : Nat)
    (raw : List Char) (folded : List (List Char)) :
    match entryFault? placed raw folded with
    | some fault => ∃ warnings', (step kind state ⟨n, raw, folded.map Text.trim⟩).outcome warnings
        = (.error (.config fault n), warnings')
    | none => ∃ state' warnings', (step kind state ⟨n, raw, folded.map Text.trim⟩).outcome warnings
        = (.ok state', warnings') ∧ state'.place ≠ .nowhere := by
  rw [entryFault?]
  rcases hheader : isHeader raw with - | -
  · have hmark : '=' ∈ (Line.mk n raw (folded.map Text.trim)).content ↔
        ∃ line ∈ raw :: folded, '=' ∈ line := by
      rw [mark_mem_content_iff]
      simp
    rw [if_neg (by simp)]
    -- it is looked for an `=` first, also where there is no place
    split
    · next fault hfault =>
      split at hfault
      · next hmarked =>
        rcases hplace : placed with - | -
        · have hnowhere : state.place = .nowhere := by
            by_contra hne
            rw [hplaced.mpr hne] at hplace
            cases hplace
          rw [hplace] at hfault
          cases hfault
          exact ⟨warnings, outcome_step_property hnowhere hheader (hmark.mpr hmarked)⟩
        · rw [hplace] at hfault
          cases hfault
      · next hunmarked =>
        cases hfault
        exact ⟨warnings, outcome_step_unmarked hheader (hmark.not.mpr hunmarked)⟩
    · next hnone =>
      split at hnone
      · next hmarked =>
        rcases hplace : placed with - | -
        · rw [hplace] at hnone
          cases hnone
        · have hsomewhere : state.place ≠ .nowhere := hplaced.mp hplace
          exact ensures_step_property hsomewhere hheader (hmark.mpr hmarked) warnings
      · cases hnone
  · rw [if_pos rfl]
    split
    · next fault hfault => exact ⟨warnings, outcome_step_header hheader hfault⟩
    · next hnone => exact ensures_step_header hheader hnone warnings

/-- **The pass over all lines** fails at the first one that is at fault, if there is one. -/
theorem outcome_foldlM (hplaced : placed = true ↔ state.place ≠ .nowhere) (n : Nat)
    (lines : List (List Char)) :
    match groupingFault? placed n lines with
    | some (fault, m) => ∃ warnings',
        ((logicalFrom n lines).foldlM (step kind) state).outcome warnings
          = (.error (.config fault m), warnings')
    | none => ∃ state' warnings',
        ((logicalFrom n lines).foldlM (step kind) state).outcome warnings
          = (.ok state', warnings') := by
  induction lines generalizing state placed warnings n with
  | nil => exact ⟨state, warnings, rfl⟩
  | cons raw lines ih =>
    rw [groupingFault?, logicalFrom]
    rcases hopens : opens raw with - | -
    · have hheader : isHeader raw = false := (opens_eq_false_iff.mp hopens).1
      rw [hheader, Bool.or_false]
      exact ih hplaced (n + 1)
    · rw [if_pos rfl, if_pos rfl, List.foldlM_cons, outcome_bind]
      have hstep := @outcome_step kind state placed warnings hplaced n raw (foldedBelow lines)
      rcases hfault : entryFault? placed raw (foldedBelow lines) with - | fault
      · rw [hfault] at hstep
        obtain ⟨next, warnings', hnext, hplace⟩ := hstep
        rw [hnext]
        -- below a line that is in order there is a place, as it is a header or had one itself
        have hthere : (placed || isHeader raw) = true := by
          rcases hheader : isHeader raw with - | -
          · rcases hplace' : placed with - | -
            · rw [entryFault?, hheader, hplace'] at hfault
              split at hfault
              · contradiction
              · split at hfault <;> cases hfault
            · rfl
          · rw [Bool.or_true]
        exact ih ⟨fun _ => hplace, fun _ => hthere⟩ (n + 1)
      · rw [hfault] at hstep
        obtain ⟨warnings', herror⟩ := hstep
        rw [herror]
        exact ⟨warnings', rfl⟩

end Grouping

/-! ### Putting sections together -/

/-- The file with one more section; a bare header of a config file gives way to a section that is
there already. -/
def File.withSection (kind : FileKind) (file : File) (entry : Header × Section) : File :=
  if (entry.1.kind = .profile ∧ !entry.1.prefixed ∧ kind = .config) ∧
      (file.ofKind entry.1.kind).has entry.1.name then file
  else file.put entry.1.kind entry.1.name entry.2

/-- The file that some sections make. -/
def fileOf (kind : FileKind) (sections : List (Header × Section)) : File :=
  sections.foldl (File.withSection kind) {}

theorem ensures_add_withSection (file : File) (entry : Header × Section) :
    (File.add kind file entry).Ensures (· = file.withSection kind entry) := by
  obtain ⟨header, s⟩ := entry
  rw [File.add, File.withSection]
  dsimp only
  split
  · exact (ensures_warn _).bind fun _ _ => ensures_pure rfl
  · exact ensures_pure rfl

theorem ensures_foldlM_withSection (file : File) (sections : List (Header × Section)) :
    (sections.foldlM (File.add kind) file).Ensures
      (· = sections.foldl (File.withSection kind) file) := by
  induction sections generalizing file with
  | nil => exact ensures_pure rfl
  | cons entry sections ih =>
    rw [List.foldlM_cons, List.foldl_cons]
    refine (ensures_add_withSection file entry).bind ?_
    rintro _ rfl
    exact ih _

/-! ### Both passes -/

/-- What parsing comes to, told from the lines. -/
def outcomeOf (kind : FileKind) (lines : List (List Char)) : Except Error File :=
  match (foldingFault? {} 1 lines).or (groupingFault? false 1 lines) with
  | some (fault, n) => .error (.config fault n)
  | none => .ok (fileOf kind (sectionsOf (statements kind none lines)))

/-- A text is read if neither pass finds a line at fault. -/
theorem outcomeOf_eq_ok_iff {file : File} : outcomeOf kind lines = .ok file ↔
    foldingFault? {} 1 lines = none ∧ groupingFault? false 1 lines = none ∧
      fileOf kind (sectionsOf (statements kind none lines)) = file := by
  rw [outcomeOf]
  rcases foldingFault? {} 1 lines with - | fault
  · rcases groupingFault? false 1 lines with - | fault <;> simp
  · simp

/-- **The outcome of parsing is a function of the lines.** -/
theorem parse_eq (kind : FileKind) (text : String) :
    (File.parse kind text).1 = outcomeOf kind (Text.lines text.toList) := by
  rw [File.parse, File.read, outcome_bind, outcome_ofExcept, foldLines_eq, outcomeOf]
  rcases foldingFault? {} 1 (Text.lines text.toList) with - | ⟨fault, n⟩
  · dsimp only
    rw [Option.none_or, outcome_bind]
    have hplaced : false = true ↔ ({} : Grouping).place ≠ .nowhere := by simp
    have hpass := @Grouping.outcome_foldlM kind {} false [] hplaced 1 (Text.lines text.toList)
    rcases hfault : groupingFault? false 1 (Text.lines text.toList) with - | ⟨fault, n⟩
    · rw [hfault] at hpass
      obtain ⟨grouping, warnings, hpass⟩ := hpass
      have hholds := Grouping.holds_nil.foldlM 1 (Text.lines text.toList) [] grouping warnings hpass
      obtain ⟨file, warnings', hfile, rfl⟩ :=
        @ensures_foldlM_withSection kind {} grouping.sections warnings
      rw [hpass]
      dsimp only
      rw [hfile, hholds.sections]
      rfl
    · rw [hfault] at hpass
      obtain ⟨warnings, herror⟩ := hpass
      rw [herror]
  · rfl

end AwsSigning.SharedConfig
