/-
AwsSigning/Proofs/SharedConfig/Grouping.lean

The second pass over a configuration file, logical line by logical line.

Grouping can fail in two ways only.  A header may not be closed as it should
be, whatever came before it.  And a property may come first, before any
header; once there has been a header, there is always a place for a property,
if only one that is ignored (`foldlM_below`, `foldlM_start`).  Names and keys
that are no identifiers, unknown kinds and repeated keys are passed over with
a warning, and putting the sections together never fails (`ensures_add`).
-/
import AwsSigning.Proofs.Operation
import AwsSigning.SharedConfig.File

namespace AwsSigning.SharedConfig

open Operation

variable {kind : FileKind} {line : Line} {warnings : List String}

/-! ### Headers -/

theorem ensures_warn (text : String) : (warn text).Ensures fun _ => True :=
  ensures_modify _

/-- What stands between brackets is always read, perhaps as nothing. -/
theorem ensures_configHeader (inner : List Char) (number : Nat) :
    (configHeader inner number).Ensures fun _ => True := by
  have hunprefixed : (configHeader.unprefixed inner number).Ensures fun _ => True :=
    (ensures_warn _).bind fun _ _ => ensures_pure trivial
  unfold configHeader
  split
  · split
    · exact ensures_pure trivial
    · exact hunprefixed
  · split
    · exact ensures_pure trivial
    · exact (ensures_warn _).bind fun _ _ => ensures_pure trivial
  · exact hunprefixed

/-- A header that is closed as it should be is read, perhaps as nothing. -/
theorem ensures_readHeader {inner : List Char} (h : bracketed line = .ok inner) :
    (readHeader kind line).Ensures fun _ => True := by
  refine (ensures_ofExcept (P := fun _ => True) h trivial).bind fun inner _ => ?_
  dsimp only
  split
  case' h_1 => refine (ensures_pure (P := fun _ => True) trivial).bind fun header? _ => ?_
  case' h_2 => refine (ensures_configHeader inner line.number).bind fun header? _ => ?_
  -- whichever kind of file it is in, a header is then checked by its name
  all_goals
    split
    · exact ensures_pure trivial
    · split
      · exact ensures_pure trivial
      · exact (ensures_warn _).bind fun _ _ => ensures_pure trivial

/-- What is wrong with a header that is not closed as it should be. -/
def closingFault? (raw : List Char) : Option SyntaxFault :=
  match Text.splitLast? ']' raw with
  | none => some .openHeader
  | some (_, after) =>
    if Text.trim after = [] || isComment (Text.trim after) then none else some .afterHeader

theorem bracketed_eq (line : Line) :
    match closingFault? line.first with
    | some fault => bracketed line = .error (.config fault line.number)
    | none => ∃ inner, bracketed line = .ok inner := by
  unfold closingFault? bracketed
  rcases Text.splitLast? ']' line.first with - | ⟨before, after⟩
  · rfl
  · dsimp only
    rcases (decide (Text.trim after = []) || isComment (Text.trim after)) with - | -
    · rfl
    · exact ⟨_, rfl⟩

/-! ### Grouping one line -/

namespace Grouping

variable {state : Grouping}

/-- A header leads to a place for properties. -/
theorem ensures_step_header (hheader : isHeader line.first = true)
    (hfault : closingFault? line.first = none) :
    (step kind state line).Ensures fun state' => state'.place ≠ .nowhere := by
  have hbracketed := bracketed_eq line
  rw [hfault] at hbracketed
  obtain ⟨inner, hbracketed⟩ := hbracketed
  rw [step, if_pos hheader]
  refine (ensures_readHeader hbracketed).bind fun header? _ => ?_
  rcases header? with - | header
  · exact ensures_pure nofun
  · apply ensures_pure
    unfold enter
    split <;> exact nofun

/-- A header that is not closed as it should be ends the pass. -/
theorem outcome_step_header {fault : SyntaxFault} (hheader : isHeader line.first = true)
    (hfault : closingFault? line.first = some fault) :
    (step kind state line).outcome warnings = (.error (.config fault line.number), warnings) := by
  have hbracketed := bracketed_eq line
  rw [hfault] at hbracketed
  rw [step, if_pos hheader, readHeader, outcome_bind, outcome_bind, outcome_ofExcept, hbracketed]

/-- A property has its place below a header. -/
theorem ensures_step_property (hplace : state.place ≠ .nowhere)
    (hheader : isHeader line.first = false) (hmark : '=' ∈ line.content) :
    (step kind state line).Ensures fun state' => state'.place ≠ .nowhere := by
  rw [step, if_neg (by simp [hheader]), if_neg (by simpa using hmark)]
  split
  · next hnowhere => exact absurd hnowhere hplace
  · exact ensures_pure hplace
  · next header hunder =>
    unfold property
    dsimp only
    split
    · exact (ensures_warn _).bind fun _ _ => ensures_pure hplace
    · split
      · exact (ensures_warn _).bind fun _ _ => ensures_pure hplace
      · exact ensures_pure hplace

/-- A property has no place above all headers. -/
theorem outcome_step_property (hplace : state.place = .nowhere)
    (hheader : isHeader line.first = false) (hmark : '=' ∈ line.content) :
    (step kind state line).outcome warnings
      = (.error (.config .expectedSection line.number), warnings) := by
  rw [step, if_neg (by simp [hheader]), if_neg (by simpa using hmark), hplace]
  rfl

/-! ### Grouping all lines -/

/-- A logical line is a header or a property. -/
def IsEntry (line : Line) : Prop := isHeader line.first = false → '=' ∈ line.content

/-- What is wrong with a logical line below a header. -/
def lineFault? (line : Line) : Option Error :=
  if isHeader line.first then (closingFault? line.first).map fun fault => .config fault line.number
  else none

/-- What is wrong with the logical lines of a file. -/
def fault? (lines : List Line) : Option Error :=
  match lines with
  | [] => none
  | line :: _ =>
    if isHeader line.first then lines.findSome? lineFault?
    else some (.config .expectedSection line.number)

/-- Below a header, a line is at fault or leads to a place again. -/
theorem step_below (hplace : state.place ≠ .nowhere ∨ isHeader line.first = true)
    (hentry : IsEntry line) :
    match lineFault? line with
    | some e => (step kind state line).outcome warnings = (.error e, warnings)
    | none => (step kind state line).Ensures fun state' => state'.place ≠ .nowhere := by
  unfold lineFault?
  rcases hheader : isHeader line.first with - | -
  · exact ensures_step_property (hplace.resolve_right (by simp [hheader])) hheader (hentry hheader)
  · rcases hfault : closingFault? line.first with - | fault
    · exact ensures_step_header hheader hfault
    · exact outcome_step_header hheader hfault

/-- **Below a header the pass fails at the first header that is not closed**, if there is one. -/
theorem foldlM_below {lines : List Line} (hlines : ∀ line ∈ lines, IsEntry line)
    (hplace : state.place ≠ .nowhere ∨ ∀ line ∈ lines.head?, isHeader line.first = true) :
    match lines.findSome? lineFault? with
    | some e => ∃ warnings', (lines.foldlM (step kind) state).outcome warnings
        = (.error e, warnings')
    | none => ∃ state' warnings', (lines.foldlM (step kind) state).outcome warnings
        = (.ok state', warnings') := by
  -- what is kept from line to line is that there is a place for properties
  induction lines generalizing state warnings with
  | nil => exact ⟨state, warnings, rfl⟩
  | cons line lines ih =>
    have hstep := @step_below kind line warnings state
      (hplace.imp_right fun h => h line rfl) (hlines line List.mem_cons_self)
    rw [List.foldlM_cons, outcome_bind, List.findSome?_cons]
    rcases hfault : lineFault? line with - | e
    · rw [hfault] at hstep
      obtain ⟨next, warnings', hnext, hplace'⟩ := hstep warnings
      rw [hnext]
      exact ih (fun x hx => hlines x (List.mem_cons_of_mem line hx)) (.inl hplace')
    · rw [hfault] at hstep
      rw [hstep]
      exact ⟨warnings, rfl⟩

/-- **The whole pass fails at a property that comes first, or at the first header that is not
closed**, if there is one. -/
theorem foldlM_start {lines : List Line} (hlines : ∀ line ∈ lines, IsEntry line) :
    match fault? lines with
    | some e => ∃ warnings', (lines.foldlM (step kind) {}).outcome warnings = (.error e, warnings')
    | none => ∃ state' warnings', (lines.foldlM (step kind) {}).outcome warnings
        = (.ok state', warnings') := by
  rcases lines with - | ⟨line, lines⟩
  · exact ⟨{}, warnings, rfl⟩
  rcases hheader : isHeader line.first with - | -
  · have hmark := hlines line List.mem_cons_self hheader
    have hfault : fault? (line :: lines) = some (.config .expectedSection line.number) := by
      simp [fault?, hheader]
    rw [hfault]
    refine ⟨warnings, ?_⟩
    rw [List.foldlM_cons, outcome_bind, outcome_step_property rfl hheader hmark]
  · have hfault : fault? (line :: lines) = (line :: lines).findSome? lineFault? := by
      rw [fault?, if_pos hheader]
    rw [hfault]
    refine foldlM_below hlines (.inr ?_)
    rintro _ ⟨⟩
    exact hheader

end Grouping

/-- Putting a section into its file never fails. -/
theorem ensures_add (file : File) (entry : Header × Section) :
    (File.add kind file entry).Ensures fun _ => True := by
  unfold File.add
  dsimp only
  split
  · exact (ensures_warn _).bind fun _ _ => ensures_pure trivial
  · exact ensures_pure trivial

end AwsSigning.SharedConfig
