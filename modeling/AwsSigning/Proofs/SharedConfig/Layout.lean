/-
AwsSigning/Proofs/SharedConfig/Layout.lean

Blank lines, comments and line endings.

A file may be laid out anew in two ways.  Blank lines and comments are put in
anywhere between its lines, which then stand further down (`Padded`); and each line
is ended by a line feed alone or by a carriage return and a line feed, the last one
perhaps by nothing (`Written`).

Neither is seen by the parser (`parse_of_padded`): what was read is read as it was,
and a text that was refused is refused for the same reason, with the number that
the line at fault has now.  Lines that are put in leave everything as it is that
either pass carries along, and a carriage return that is left at the end of a
line is white space there, which says nothing (`looksLike_append_blank`).
-/
import AwsSigning.Proofs.SharedConfig.Likeness

namespace AwsSigning.SharedConfig

variable {kind : FileKind} {raw tail : List Char} {lines lines' : List (List Char)}

/-! ### White space at the end of a line -/

section Blank

variable (htail : Text.isBlankText tail = true)
include htail

theorem isSkipped_append_blank (raw : List Char) : isSkipped (raw ++ tail) = isSkipped raw := by
  rcases raw with - | ⟨c, raw⟩
  · rw [List.nil_append, isSkipped, htail]
    rfl
  · have hblank : Text.isBlankText (c :: raw ++ tail) = Text.isBlankText (c :: raw) := by
      rw [Text.isBlankText] at htail ⊢
      rw [List.all_append, htail, Bool.and_true]
      rfl
    rw [isSkipped, isSkipped, hblank]
    rfl

/-- The line stays of the same kind. -/
theorem kind_append_blank (raw : List Char) :
    isHeader (raw ++ tail) = isHeader raw ∧ isPlain (raw ++ tail) = isPlain raw ∧
      isFolded (raw ++ tail) = isFolded raw := by
  have hskip := isSkipped_append_blank htail raw
  rcases raw with - | ⟨c, raw⟩
  · -- what has become white space is passed over as nothing was before
    have hskipped : isSkipped ([] ++ tail) = true := hskip
    obtain ⟨hheader, hplain⟩ := opens_eq_false_iff.mp (opens_of_isSkipped hskipped)
    refine ⟨hheader, hplain, ?_⟩
    rw [isFolded, hskipped]
    rfl
  · have hheader : isHeader (c :: raw ++ tail) = isHeader (c :: raw) := rfl
    have hcontinuation : isContinuation (c :: raw ++ tail) = isContinuation (c :: raw) := rfl
    refine ⟨hheader, ?_, ?_⟩
    · rw [isPlain, isPlain, hskip, hheader, hcontinuation]
    · rw [isFolded, isFolded, hskip, hcontinuation]

theorem bracket_not_mem_of_isBlankText : ']' ∉ tail := fun hmem =>
  absurd (List.all_eq_true.mp htail ']' hmem) (by decide)

theorem closingFault?_append_blank (raw : List Char) :
    closingFault? (raw ++ tail) = closingFault? raw := by
  rw [closingFault?, closingFault?,
    Text.splitLast?_append_of_not_mem (bracket_not_mem_of_isBlankText htail)]
  rcases Text.splitLast? ']' raw with - | ⟨before, after⟩
  · rfl
  · rw [Option.map_some]
    dsimp only
    rw [Text.trim_append_blank after htail]

theorem headerIn?_append_blank (kind : FileKind) (raw : List Char) :
    headerIn? kind (raw ++ tail) = headerIn? kind raw := by
  rw [headerIn?, headerIn?,
    Text.splitLast?_append_of_not_mem (bracket_not_mem_of_isBlankText htail)]
  rcases Text.splitLast? ']' raw with - | ⟨before, after⟩ <;> rfl

theorem ownProperty_append_blank (raw : List Char) :
    ownProperty (raw ++ tail) = ownProperty raw := by
  rw [ownProperty, ownProperty,
    Text.splitFirst?_append_of_not_mem (mark_not_mem_of_isBlankText htail)]
  rcases Text.splitFirst? '=' raw with - | ⟨key, value⟩
  · rw [Option.map_none, Option.getD_none, Option.getD_none]
    dsimp only
    rw [Text.trim_append_blank raw htail]
  · rw [Option.map_some, Option.getD_some, Option.getD_some]
    dsimp only
    rw [Text.trim_append_blank value htail]

/-- **White space at the end of a line is not seen.** -/
theorem looksLike_append_blank (raw : List Char) : LooksLike raw (raw ++ tail) := by
  have hmark : '=' ∉ tail := mark_not_mem_of_isBlankText htail
  obtain ⟨hheader, hplain, hfolded⟩ := kind_append_blank htail raw
  constructor
  · exact ⟨hheader.symm, hplain.symm, hfolded.symm, by simp [hmark],
      fun _ => (Text.trim_append_blank raw htail).symm,
      fun _ => (closingFault?_append_blank htail raw).symm,
      fun _ kind => (headerIn?_append_blank htail kind raw).symm⟩
  · rw [blankValue_append, htail, Bool.and_true, blankValue_of_not_mem hmark]
    split
    · rfl
    · next hnone => exact blankValue_of_not_mem hnone
  · exact fun _ => (ownProperty_append_blank htail raw).symm

end Blank

/-! ### Line endings -/

/-- A text with these lines, each ended by a line feed or by a carriage return and a line feed; the
last one may also end with the text. -/
inductive Written : List (List Char) → List Char → Prop
  | done : Written [] []
  | last {line : List Char} (hne : line ≠ []) : Written [line] line
  | line (line : List Char) {ending : List Char} {lines s}
      (hending : ending ∈ [['\n'], ['\r', '\n']]) (h : Written lines s) :
      Written (line :: lines) (line ++ ending ++ s)

/-- Every text is written in its lines. -/
theorem Written.forall₂_lines {s : List Char} (h : Written lines s)
    (hlines : ∀ line ∈ lines, '\n' ∉ line) : List.Forall₂ LooksLike (Text.lines s) lines := by
  induction h with
  | done => exact .nil
  | @last line hne =>
    have hline : '\n' ∉ line := hlines line List.mem_cons_self
    have hsingle : Text.lines line = [line] := by
      rw [Text.lines, Text.splitWhen_of_not_mem hline, Text.linesOfPieces, if_neg hne]
    rw [hsingle]
    exact .cons (.refl line) .nil
  | @line line ending lines s hending _ ih =>
    have hline : '\n' ∉ line := hlines line List.mem_cons_self
    have hrest := ih fun x hx => hlines x (List.mem_cons_of_mem line hx)
    have hcases : ending = ['\n'] ∨ ending = ['\r', '\n'] := by simpa using hending
    rcases hcases with rfl | rfl
    · -- a carriage return at the end of the line is now a part of the ending
      have hcut : Text.lines (line ++ ['\n'] ++ s) = Text.dropLineEnd line :: Text.lines s := by
        rw [List.append_assoc, List.singleton_append, Text.lines_append_newline,
          Text.splitWhen_of_not_mem hline]
        rfl
      obtain ⟨ending, hending, heq⟩ := Text.exists_ending line
      have hblank : Text.isBlankText ending = true := by
        have hcases : ending = [] ∨ ending = ['\r'] := by simpa using hending
        rcases hcases with rfl | rfl <;> decide
      rw [hcut]
      refine .cons ?_ hrest
      have hlike := looksLike_append_blank hblank (Text.dropLineEnd line)
      rwa [← heq] at hlike
    · have hwhole : '\n' ∉ line ++ ['\r'] := by simp [hline]
      have hsplit : line ++ ['\r', '\n'] ++ s = (line ++ ['\r']) ++ '\n' :: s := by simp
      have hcut : Text.lines (line ++ ['\r', '\n'] ++ s) = line :: Text.lines s := by
        rw [hsplit, Text.lines_append_newline, Text.splitWhen_of_not_mem hwhole, List.map_singleton,
          Text.dropLineEnd_append_return]
        rfl
      rw [hcut]
      exact .cons (.refl line) hrest

/-! ### Lines put in between -/

/-- Lines with blank lines and comments put in between them, both counted from some number.  The
pairs tell for each of the old lines which number it had and which one it has now. -/
inductive Padded : Nat → Nat → List (List Char) → List (List Char) → List (Nat × Nat) → Prop
  | done (n m : Nat) : Padded n m [] [] []
  | line {n m : Nat} {lines lines' moved} (raw : List Char)
      (h : Padded (n + 1) (m + 1) lines lines' moved) :
      Padded n m (raw :: lines) (raw :: lines') ((n, m) :: moved)
  | skip {n m : Nat} {lines lines' moved} {raw : List Char} (hskip : isSkipped raw = true)
      (hline : '\n' ∉ raw) (h : Padded n (m + 1) lines lines' moved) :
      Padded n m lines (raw :: lines') moved

/-- The same fault, in the same line. -/
def SameFinding (moved : List (Nat × Nat)) (x y : SyntaxFault × Nat) : Prop :=
  x.1 = y.1 ∧ (x.2, y.2) ∈ moved

theorem rel_or {α : Type} {R : α → α → Prop} {x x' y y' : Option α} (h : Option.Rel R x x')
    (h' : Option.Rel R y y') : Option.Rel R (x.or y) (x'.or y') := by
  cases h with
  | some h => exact .some h
  | none => exact h'

/-- What is found in one line is found there in both texts. -/
theorem rel_map_fault {moved : List (Nat × Nat)} {n m : Nat} (h : (n, m) ∈ moved)
    (fault? : Option SyntaxFault) :
    Option.Rel (SameFinding moved) (fault?.map fun fault => (fault, n))
      (fault?.map fun fault => (fault, m)) := by
  rcases fault? with - | fault
  · exact .none
  · exact .some ⟨rfl, h⟩

theorem foldedBelow_of_isSkipped (h : isSkipped raw = true) :
    foldedBelow (raw :: lines) = foldedBelow lines := by
  have hfolded : isFolded raw = false := by rw [isFolded, h]; rfl
  rw [foldedBelow_cons (opens_of_isSkipped h), hfolded]
  rfl

theorem View.fault?_of_isSkipped (h : isSkipped raw = true) (view : View) :
    view.fault? raw = none := by
  have hfolded : isFolded raw = false := by rw [isFolded, h]; rfl
  rw [View.fault?, hfolded]
  rfl

theorem View.after_of_isSkipped (h : isSkipped raw = true) (view : View) :
    view.after raw = view := by
  obtain ⟨hheader, hplain⟩ := opens_eq_false_iff.mp (opens_of_isSkipped h)
  have hfolded : isFolded raw = false := by rw [isFolded, h]; rfl
  rw [View.after, hheader, hplain, hfolded]
  rfl

namespace Padded

variable {n m : Nat} {moved all : List (Nat × Nat)}

theorem newline_not_mem (h : Padded n m lines lines' moved) (hlines : ∀ line ∈ lines, '\n' ∉ line) :
    ∀ line ∈ lines', '\n' ∉ line := by
  induction h with
  | done => exact hlines
  | line raw _ ih =>
    rw [List.forall_mem_cons] at hlines ⊢
    exact ⟨hlines.1, ih hlines.2⟩
  | skip _ hline _ ih => exact List.forall_mem_cons.mpr ⟨hline, ih hlines⟩

/-- The same lines are folded. -/
theorem foldedBelow_eq (h : Padded n m lines lines' moved) :
    foldedBelow lines = foldedBelow lines' := by
  induction h with
  | done => rfl
  | line raw _ ih =>
    rcases hopens : opens raw with - | -
    · rw [foldedBelow_cons hopens, foldedBelow_cons hopens, ih]
    · rw [foldedBelow_of_opens hopens, foldedBelow_of_opens hopens]
  | skip hskip _ _ ih => rw [foldedBelow_of_isSkipped hskip, ih]

/-- **The first pass finds the same**, where the line stands now. -/
theorem rel_foldingFault? (h : Padded n m lines lines' moved) (hall : ∀ pair ∈ moved, pair ∈ all)
    (view : View) :
    Option.Rel (SameFinding all) (foldingFault? view n lines) (foldingFault? view m lines') := by
  -- a line that is put in changes no view, so both texts are in the same one all along
  induction h generalizing view with
  | done => exact .none
  | line raw _ ih =>
    rw [List.forall_mem_cons] at hall
    exact rel_or (rel_map_fault hall.1 (view.fault? raw)) (ih hall.2 (view.after raw))
  | @skip _ m _ lines' _ raw hskip _ _ ih =>
    have hrest : foldingFault? view m (raw :: lines') = foldingFault? view (m + 1) lines' := by
      rw [foldingFault?, View.fault?_of_isSkipped hskip, View.after_of_isSkipped hskip]
      rfl
    rw [hrest]
    exact ih hall view

/-- **The second pass finds the same**, where the line stands now. -/
theorem rel_groupingFault? (h : Padded n m lines lines' moved) (hall : ∀ pair ∈ moved, pair ∈ all)
    (placed : Bool) :
    Option.Rel (SameFinding all) (groupingFault? placed n lines)
      (groupingFault? placed m lines') := by
  induction h generalizing placed with
  | done => exact .none
  | line raw hrest ih =>
    rw [List.forall_mem_cons] at hall
    rw [groupingFault?, groupingFault?, ← hrest.foldedBelow_eq]
    exact rel_or (rel_map_fault hall.1 _) (ih hall.2 _)
  | @skip _ m _ lines' _ raw hskip _ _ ih =>
    have hopens : opens raw = false := opens_of_isSkipped hskip
    have hrest : groupingFault? placed m (raw :: lines')
        = groupingFault? placed (m + 1) lines' := by
      rw [groupingFault?, hopens, (opens_eq_false_iff.mp hopens).1, Bool.or_false]
      rfl
    rw [hrest]
    exact ih hall placed

/-- The lines say the same. -/
theorem statements_eq (h : Padded n m lines lines' moved) (current : Option Header) :
    statements kind current lines = statements kind current lines' := by
  induction h generalizing current with
  | done => rfl
  | line raw hrest ih =>
    -- what is folded onto the line stands further down, and is the same
    rw [statements, statements, statement?, statement?, hrest.foldedBelow_eq, ih]
  | @skip _ _ _ _ _ raw hskip _ _ ih =>
    obtain ⟨hheader, hplain⟩ := opens_eq_false_iff.mp (opens_of_isSkipped hskip)
    rw [ih, statements, statement?, headerBelow, hheader, hplain]
    rfl

end Padded

/-- **How a file is laid out is not seen.**  Blank lines and comments may be put in anywhere and
lines be ended either way: a text that was read is read as the same file, and one that was refused
is refused for the same fault, with the number that the line has now. -/
theorem parse_of_padded (kind : FileKind) {text text' : String} {lines : List (List Char)}
    {moved : List (Nat × Nat)} (hpadded : Padded 1 1 (Text.lines text.toList) lines moved)
    (hwritten : Written lines text'.toList) :
    (∀ file, (File.parse kind text).1 = .ok file → (File.parse kind text').1 = .ok file) ∧
    ∀ e, (File.parse kind text).1 = .error e →
      ∃ fault n m, e = .config fault n ∧ (n, m) ∈ moved ∧
        (File.parse kind text').1 = .error (.config fault m) := by
  have hnewline : ∀ line ∈ lines, '\n' ∉ line :=
    hpadded.newline_not_mem fun line => Text.newline_not_mem_of_mem_lines
  have hparse' : (File.parse kind text').1 = outcomeOf kind lines := by
    rw [parse_eq, outcomeOf_congr (hwritten.forall₂_lines hnewline)]
  have hfound := rel_or (hpadded.rel_foldingFault? (fun _ h => h) {})
    (hpadded.rel_groupingFault? (fun _ h => h) false)
  rw [hparse', parse_eq, outcomeOf, outcomeOf, hpadded.statements_eq]
  generalize (foldingFault? {} 1 (Text.lines text.toList)).or
    (groupingFault? false 1 (Text.lines text.toList)) = found at hfound ⊢
  generalize (foldingFault? {} 1 lines).or (groupingFault? false 1 lines) = found' at hfound ⊢
  cases hfound with
  | none =>
    refine ⟨fun _ h => h, ?_⟩
    rintro _ ⟨⟩
  | @some x y hsame =>
    obtain ⟨fault, n⟩ := x
    obtain ⟨_, m⟩ := y
    obtain ⟨rfl, hmoved⟩ := hsame
    refine ⟨?_, ?_⟩
    · rintro _ ⟨⟩
    · rintro _ ⟨⟩
      exact ⟨fault, n, m, rfl, hmoved, rfl⟩

/-- The line without a key moves from the fourth place to the seventh. -/
theorem parse_of_padded_block :
    (File.parse .config "[default]\ns3 =\n  a = 1\n  b\n").1
        = .error (.config .expectedSubProperty 4) ∧
      (File.parse .config "# top\r\n[default]\r\ns3 =\r\n\r\n  a = 1\r\n; rest\r\n  b\r\n").1
        = .error (.config .expectedSubProperty 7) := by
  have hparse : (File.parse .config "[default]\ns3 =\n  a = 1\n  b\n").1
      = .error (.config .expectedSubProperty 4) := by
    rw [parse_eq]
    rfl
  have hlines : Text.lines "[default]\ns3 =\n  a = 1\n  b\n".toList
      = ["[default]".toList, "s3 =".toList, "  a = 1".toList, "  b".toList] := by decide +kernel
  have hpadded : Padded 1 1 (Text.lines "[default]\ns3 =\n  a = 1\n  b\n".toList)
      ["# top".toList, "[default]".toList, "s3 =".toList, [], "  a = 1".toList, "; rest".toList,
        "  b".toList] [(1, 2), (2, 3), (3, 5), (4, 7)] := by
    rw [hlines]
    apply Padded.skip (by decide) (by decide)
    apply Padded.line
    apply Padded.line
    apply Padded.skip (by decide) (by decide)
    apply Padded.line
    apply Padded.skip (by decide) (by decide)
    apply Padded.line
    exact Padded.done 5 8
  have hwritten : Written ["# top".toList, "[default]".toList, "s3 =".toList, [],
      "  a = 1".toList, "; rest".toList, "  b".toList]
      "# top\r\n[default]\r\ns3 =\r\n\r\n  a = 1\r\n; rest\r\n  b\r\n".toList := by
    have hend : ['\r', '\n'] ∈ [['\n'], ['\r', '\n']] := by simp
    exact .line _ hend (.line _ hend (.line _ hend (.line _ hend (.line _ hend (.line _ hend
      (.line _ hend .done))))))
  obtain ⟨fault, n, m, herror, hmoved, hparse'⟩ :=
    (parse_of_padded .config hpadded hwritten).2 _ hparse
  have hfault : fault = .expectedSubProperty := by
    have hreason := congrArg Error.reason herror
    cases hreason
    rfl
  -- the number is told by the text that goes with the failure
  have hcontext : ["line: 4"] = ["line: " ++ toString n] := congrArg Error.context herror
  have hm : m = 7 := by
    simp only [List.mem_cons, Prod.mk.injEq, List.not_mem_nil, or_false] at hmoved
    obtain ⟨rfl, -⟩ | ⟨rfl, -⟩ | ⟨rfl, -⟩ | ⟨-, hm⟩ := hmoved
    · exact absurd hcontext (by decide)
    · exact absurd hcontext (by decide)
    · exact absurd hcontext (by decide)
    · exact hm
  rw [hfault, hm] at hparse'
  exact ⟨hparse, hparse'⟩

end AwsSigning.SharedConfig
