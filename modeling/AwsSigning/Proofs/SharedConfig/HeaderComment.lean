/-
AwsSigning/Proofs/SharedConfig/HeaderComment.lean

A comment behind the header of a section.

Two files that differ in one header line only are read side by side.  The
first pass keeps the header as a line of its own, since a continuation right
below a header has no property to belong to: what it gives differs in that one
line (`foldLines_alike`).  The second pass looks at a header only to read it.
So the two files are read alike if the two headers are (`lockstep_read`).

The end of a header is its last `]`.  A comment without a `]` is behind that
end, and the header is read as if it were not there.  If there is a `]` in the
comment, the last one of these ends the header: what stands between the
brackets is then no name of any section, and what was to be the comment is only
the text behind that `]` (`parse_commented`).
-/
import AwsSigning.Proofs.Lockstep
import AwsSigning.Proofs.SharedConfig.Contents
import AwsSigning.Proofs.Text.Slot

namespace AwsSigning.SharedConfig

open Operation

variable {kind : FileKind} {raw raw' : List Char}

/-! ### The first pass -/

/-- Logical lines that differ in one line, a header. -/
def DifferInHeader (raw raw' : List Char) (logical logical' : List Line) : Prop :=
  ∃ front n back, logical = front ++ ⟨n, raw, []⟩ :: back ∧
    logical' = front ++ ⟨n, raw', []⟩ :: back

namespace Folding

/-- Two states that differ in one line, a header; nothing can be folded onto it any more. -/
def DifferAbove (raw raw' : List Char) (state state' : Folding) : Prop :=
  ∃ newer n older, state.lines = newer ++ ⟨n, raw, []⟩ :: older ∧
    state' = { state with lines := newer ++ ⟨n, raw', []⟩ :: older } ∧
    (state.inProperty = true → newer ≠ [])

variable {state state' : Folding}

/-- **One more line** is folded alike whatever the header above it is. -/
theorem step_differAbove (h : DifferAbove raw raw' state state') (n : Nat) (line : List Char) :
    EndAlike (DifferAbove raw raw') (state.step n line) (state'.step n line) := by
  obtain ⟨newer, m, older, hlines, rfl, hnewer⟩ := h
  rcases line_cases line with hskip | hheader | hfolded | hplain
  · rw [step_of_isSkipped hskip, step_of_isSkipped hskip]
    exact .ok ⟨newer, m, older, hlines, rfl, hnewer⟩
  · rw [step_of_isHeader hheader, step_of_isHeader hheader]
    exact .ok ⟨_ :: newer, m, older, by rw [hlines]; rfl, rfl, fun _ => List.cons_ne_nil _ _⟩
  · rw [step_of_isFolded hfolded, step_of_isFolded hfolded, continueWith, continueWith]
    dsimp only
    split
    · exact .error _
    · split
      · exact .error _
      · next hproperty =>
        -- the line it is folded onto is newer than the header
        obtain ⟨last, rest, rfl⟩ := List.exists_cons_of_ne_nil (hnewer (by simpa using hproperty))
        rw [hlines]
        dsimp only [List.cons_append]
        split
        · exact .error _
        · exact .ok ⟨last.fold line :: rest, m, older, rfl, rfl, fun _ => List.cons_ne_nil _ _⟩
  · rw [step_of_isPlain hplain, step_of_isPlain hplain]
    exact .ok ⟨_ :: newer, m, older, by rw [hlines]; rfl, rfl, fun _ => List.cons_ne_nil _ _⟩

theorem run_cons (state : Folding) (n : Nat) (line : List Char) (lines : List (List Char)) :
    state.run n (line :: lines) = state.step n line >>= fun next => next.run (n + 1) lines := by
  rw [run]
  rcases state.step n line with e | next <;> rfl

/-- Lines below a header are folded alike whatever the header is. -/
theorem run_differAbove (h : DifferAbove raw raw' state state') (n : Nat)
    (lines : List (List Char)) :
    EndAlike (DifferAbove raw raw') (state.run n lines) (state'.run n lines) := by
  induction lines generalizing state state' n with
  | nil => exact .ok h
  | cons line lines ih =>
    rw [run_cons, run_cons]
    exact (step_differAbove h n line).bind fun _ _ hnext => ih hnext (n + 1)

/-- **All lines** are folded alike, whatever the header among them is. -/
theorem run_alike (hraw : isHeader raw = true) (hraw' : isHeader raw' = true)
    (above below : List (List Char)) (state : Folding) (n : Nat) :
    EndAlike (DifferAbove raw raw') (state.run n (above ++ raw :: below))
      (state.run n (above ++ raw' :: below)) := by
  induction above generalizing state n with
  | nil =>
    rw [List.nil_append, List.nil_append, run_cons, run_cons, step_of_isHeader hraw,
      step_of_isHeader hraw']
    exact run_differAbove ⟨[], n, state.lines, rfl, rfl, by simp⟩ (n + 1) below
  | cons line above ih =>
    rw [List.cons_append, List.cons_append, run_cons, run_cons]
    refine (EndAlike.refl (fun _ => rfl) (state.step n line)).bind fun next next' hnext => ?_
    rw [← hnext]
    exact ih next (n + 1)

end Folding

/-- **The first pass over two files that differ in a header.** -/
theorem foldLines_alike {text text' : List Char} {above below : List (List Char)}
    (hraw : isHeader raw = true) (hraw' : isHeader raw' = true)
    (hlines : Text.lines text = above ++ raw :: below)
    (hlines' : Text.lines text' = above ++ raw' :: below) :
    EndAlike (DifferInHeader raw raw') (foldLines text) (foldLines text') := by
  rw [foldLines, foldLines, hlines, hlines']
  refine (Folding.run_alike hraw hraw' above below {} 1).map ?_
  rintro state _ ⟨newer, n, older, hstate, rfl, -⟩
  exact ⟨older.reverse, n, newer.reverse, by simp [hstate], by simp⟩

/-! ### The second pass -/

section Reading

/-- What the warnings given so far may differ in stays what they may differ in. -/
def KeptByWarning (R : List String → List String → Prop) : Prop :=
  ∀ given given' text, R given given' → R (given ++ [text]) (given' ++ [text])

variable {R : List String → List String → Prop} (hR : KeptByWarning R)
include hR

theorem lockstep_warn (text : String) : (warn text).Lockstep R Eq (warn text) :=
  .modify fun given given' h => hR given given' text h

theorem lockstep_configHeader (inner : List Char) (n : Nat) :
    (configHeader inner n).Lockstep R Eq (configHeader inner n) := by
  have hunprefixed : (configHeader.unprefixed inner n).Lockstep R Eq
      (configHeader.unprefixed inner n) :=
    (lockstep_warn hR _).bind_same fun _ => .pure rfl
  unfold configHeader
  split
  · split
    · exact .pure rfl
    · exact hunprefixed
  · split
    · exact .pure rfl
    · exact (lockstep_warn hR _).bind_same fun _ => .pure rfl
  · exact hunprefixed

theorem lockstep_readHeader (line : Line) :
    (readHeader kind line).Lockstep R Eq (readHeader kind line) := by
  refine (Lockstep.ofExcept_self _).bind_same fun inner => ?_
  dsimp only
  split
  case' h_1 => refine Lockstep.bind_same (.pure rfl) fun header? => ?_
  case' h_2 => refine (lockstep_configHeader hR inner line.number).bind_same fun header? => ?_
  -- in both kinds of files a header is then checked by its name
  all_goals
    split
    · exact .pure rfl
    · split
      · exact .pure rfl
      · exact (lockstep_warn hR _).bind_same fun _ => .pure rfl

namespace Grouping

theorem lockstep_property (state : Grouping) (header : Header) (line : Line) :
    (state.property header line).Lockstep R Eq (state.property header line) := by
  unfold property
  dsimp only
  split
  · exact (lockstep_warn hR _).bind_same fun _ => .pure rfl
  · split
    · exact (lockstep_warn hR _).bind_same fun _ => .pure rfl
    · exact .pure rfl

omit hR in
/-- Two header lines that are read alike are grouped alike. -/
theorem lockstep_step_header {line line' : Line} (hheader : isHeader line.first = true)
    (hheader' : isHeader line'.first = true)
    (hread : (readHeader kind line).Lockstep R Eq (readHeader kind line')) (state : Grouping) :
    (step kind state line).Lockstep R Eq (step kind state line') := by
  rw [step, step, if_pos hheader, if_pos hheader']
  refine hread.bind_same fun header? => ?_
  rcases header? with - | header
  · exact .pure rfl
  · exact .pure rfl

theorem lockstep_step (state : Grouping) (line : Line) :
    (step kind state line).Lockstep R Eq (step kind state line) := by
  rcases hheader : isHeader line.first with - | -
  · rw [step, if_neg (by simp [hheader])]
    split
    · exact .fail _
    · split
      · exact .fail _
      · exact .pure rfl
      · exact lockstep_property hR state _ line
  · exact lockstep_step_header hheader hheader (lockstep_readHeader hR line) state

/-- The pass over lines that differ in one header. -/
theorem lockstep_foldlM {logical logical' : List Line} (hraw : isHeader raw = true)
    (hraw' : isHeader raw' = true)
    (hread : ∀ n, (readHeader kind ⟨n, raw, []⟩).Lockstep R Eq (readHeader kind ⟨n, raw', []⟩))
    (h : DifferInHeader raw raw' logical logical') (state : Grouping) :
    (logical.foldlM (step kind) state).Lockstep R Eq (logical'.foldlM (step kind) state) := by
  obtain ⟨front, n, back, rfl, rfl⟩ := h
  have hsame : ∀ lines : List Line, ∀ state,
      (lines.foldlM (step kind) state).Lockstep R Eq (lines.foldlM (step kind) state) :=
    fun lines => Lockstep.foldlM fun state line _ => lockstep_step hR state line
  rw [List.foldlM_append, List.foldlM_append]
  refine (hsame front state).bind_same fun before => ?_
  rw [List.foldlM_cons, List.foldlM_cons]
  exact (lockstep_step_header hraw hraw' (hread n) before).bind_same (hsame back)

end Grouping

theorem File.lockstep_add (file : File) (entry : Header × Section) :
    (File.add kind file entry).Lockstep R Eq (File.add kind file entry) := by
  unfold File.add
  dsimp only
  split
  · exact (lockstep_warn hR _).bind_same fun _ => .pure rfl
  · exact .pure rfl

/-- **Two files that differ in a header are read alike** if the two headers are. -/
theorem lockstep_read {text text' : String} {above below : List (List Char)}
    (hraw : isHeader raw = true) (hraw' : isHeader raw' = true)
    (hread : ∀ n, (readHeader kind ⟨n, raw, []⟩).Lockstep R Eq (readHeader kind ⟨n, raw', []⟩))
    (hlines : Text.lines text.toList = above ++ raw :: below)
    (hlines' : Text.lines text'.toList = above ++ raw' :: below) :
    (File.read kind text).Lockstep R Eq (File.read kind text') := by
  refine (Lockstep.ofExcept (foldLines_alike hraw hraw' hlines hlines')).bind ?_
  intro logical logical' hlogical
  refine (Grouping.lockstep_foldlM hR hraw hraw' hread hlogical {}).bind_same fun grouping => ?_
  exact Lockstep.foldlM (fun file entry _ => File.lockstep_add hR file entry) {}

end Reading

/-! ### What a header says -/

section Naming

variable {header : Header} {inner : List Char}

/-- The word for a kind is the only word for it. -/
theorem eq_word_of_ofWord? {word : List Char} {sectionKind : SectionKind}
    (h : SectionKind.ofWord? word = some sectionKind) : word = sectionKind.word := by
  unfold SectionKind.ofWord? at h
  split at h
  · next hword =>
    cases h
    exact hword
  · split at h
    · next hword =>
      cases h
      exact hword
    · split at h
      · next hword =>
        cases h
        exact hword
      · cases h

/-- The words of a header that counts are identifiers. -/
theorem isIdentifier_of_headerOfWords? {words : List (List Char)}
    (h : headerOfWords? words = some header) (hlegal : isIdentifier header.name.toList = true) :
    words ≠ [] ∧ ∀ word ∈ words, isIdentifier word = true := by
  unfold headerOfWords? at h
  split at h
  · split at h
    · next hdefault =>
      rw [hdefault]
      exact ⟨by simp, by decide⟩
    · cases h
  · next word name =>
    obtain ⟨sectionKind, hword, rfl⟩ := Option.map_eq_some_iff.mp h
    rw [eq_word_of_ofWord? hword]
    have hname : isIdentifier name = true := by simpa using hlegal
    exact ⟨by simp, by simp [Heading.word_isIdentifier, hname]⟩
  · cases h

/-- **What counts as a header is made of identifiers and white space**, and there is something of
it. -/
theorem isIdentifierChar_of_headerOf? (h : headerOf? kind inner = some header)
    (hlegal : isIdentifier header.name.toList = true) :
    inner ≠ [] ∧ ∀ c ∈ inner, Text.isBlank c = false → isIdentifierChar c = true := by
  cases kind with
  | credentials =>
    cases h
    have hinner : isIdentifier inner = true := by simpa using hlegal
    exact ⟨ne_nil_of_isIdentifier hinner, fun c hc _ => isIdentifierChar_of_mem hinner c hc⟩
  | config =>
    obtain ⟨hne, hwords⟩ := isIdentifier_of_headerOfWords? h hlegal
    refine ⟨fun hnil => hne (by rw [hnil]; rfl), fun c hc hvisible => ?_⟩
    obtain ⟨word, hword, hmem⟩ := Text.exists_mem_words hc hvisible
    exact isIdentifierChar_of_mem (hwords word hword) c hmem

end Naming

/-! ### What stands behind a header -/

section Comment

variable {inner behind comment : List Char} {mark : Char}

/-- The line of a header with some text behind it. -/
def headerLine (inner behind : List Char) : List Char := '[' :: inner ++ ']' :: behind

/-- A line with a comment at its end. -/
def commented (line : List Char) (mark : Char) (comment : List Char) : List Char :=
  line ++ ' ' :: mark :: ' ' :: comment

theorem isHeader_headerLine : isHeader (headerLine inner behind) = true := rfl

/-- A header with a comment is a header with more text behind it. -/
theorem commented_headerLine (inner behind : List Char) (mark : Char) (comment : List Char) :
    commented (headerLine inner behind) mark comment
      = headerLine inner (commented behind mark comment) := by
  simp [commented, headerLine]

/-- White space and a comment are a comment. -/
theorem isComment_trim_commented (hbehind : Text.isBlankText behind = true)
    (hmark : mark = '#' ∨ mark = ';') :
    isComment (Text.trim (commented behind mark comment)) = true := by
  have hblank : Text.isBlankText (behind ++ [' ']) = true := by
    rw [Text.isBlankText] at hbehind ⊢
    rw [List.all_append, hbehind]
    rfl
  have hvisible : Text.isBlank mark = false := by
    rcases hmark with rfl | rfl <;> decide
  have hsplit : commented behind mark comment = (behind ++ [' ']) ++ mark :: ' ' :: comment := by
    simp [commented]
  have hstart : Text.trimStart (mark :: ' ' :: comment) = mark :: ' ' :: comment :=
    Text.trimStart_eq_self_iff.mpr (by simpa using hvisible)
  rw [hsplit, Text.trim_append_of_blank hblank, Text.trim, hstart, Text.trimEnd_cons hvisible,
    isComment]
  rcases hmark with rfl | rfl <;> rfl

/-- **The last `]` ends the header**; behind it there may be white space or a comment. -/
theorem bracketed_headerLine (h : ']' ∉ behind) (n : Nat) :
    bracketed ⟨n, headerLine inner behind, []⟩ =
      if Text.trim behind = [] || isComment (Text.trim behind) then .ok (Text.trim inner)
      else .error (.config .afterHeader n) := by
  have hsplit : Text.splitLast? ']' (headerLine inner behind) = some ('[' :: inner, behind) :=
    Text.splitLast?_append h
  rw [bracketed, hsplit]
  rfl

/-- White space behind a header is as good as a comment without a `]`. -/
theorem readHeader_commented {behind' : List Char} (hbehind : Text.isBlankText behind = true)
    (hbehind' : Text.isBlankText behind' = true) (hmark : mark = '#' ∨ mark = ';')
    (hcomment : ']' ∉ comment) (n : Nat) :
    readHeader kind ⟨n, headerLine inner (commented behind mark comment), []⟩
      = readHeader kind ⟨n, headerLine inner behind', []⟩ := by
  have hblank : ∀ {s : List Char}, Text.isBlankText s = true → ']' ∉ s := by
    intro s hs hmem
    exact absurd (List.all_eq_true.mp hs ']' hmem) (by decide)
  have hout : ']' ∉ commented behind mark comment := by
    rcases hmark with rfl | rfl <;> simp [commented, hblank hbehind, hcomment]
  have hnothing : Text.trim behind' = [] := by
    rw [← List.append_nil behind', Text.trim_append_of_blank hbehind']
    rfl
  have hsame : bracketed ⟨n, headerLine inner (commented behind mark comment), []⟩
      = bracketed ⟨n, headerLine inner behind', []⟩ := by
    rw [bracketed_headerLine hout, bracketed_headerLine (hblank hbehind'), hnothing,
      isComment_trim_commented hbehind hmark]
    simp
  unfold readHeader
  rw [hsame]

/-- A header with a `]` of its own, or with nothing in it, is passed over. -/
theorem headerIn?_headerLine (hbehind : ']' ∉ behind) (hinner : ']' ∈ inner ∨ inner = []) :
    headerIn? kind (headerLine inner behind) = none := by
  have hsplit : Text.splitLast? ']' (headerLine inner behind) = some ('[' :: inner, behind) :=
    Text.splitLast?_append hbehind
  by_contra hsome
  obtain ⟨header, hheader⟩ := Option.ne_none_iff_exists'.mp hsome
  obtain ⟨hbind, hlegal⟩ := Option.filter_eq_some_iff.mp hheader
  rw [hsplit] at hbind
  obtain ⟨hne, hchars⟩ := isIdentifierChar_of_headerOf? hbind hlegal
  rcases hinner with hmem | rfl
  · have hidentifier := hchars ']' ((Text.mem_trim_iff (by decide)).mpr hmem) (by decide)
    exact absurd hidentifier (by decide)
  · exact hne rfl

/-- Headers that are passed over are read alike, but for the warnings, if the same stands behind
them. -/
theorem lockstep_readHeader_ignored {inner' : List Char} (hbehind : ']' ∉ behind)
    (hinner : ']' ∈ inner ∨ inner = []) (hinner' : ']' ∈ inner' ∨ inner' = []) (n : Nat) :
    (readHeader kind ⟨n, headerLine inner behind, []⟩).Lockstep (fun _ _ => True) Eq
      (readHeader kind ⟨n, headerLine inner' behind, []⟩) := by
  intro given given' _
  refine ⟨?_, trivial⟩
  by_cases hclosed : (Text.trim behind = [] || isComment (Text.trim behind)) = true
  · have hend : ∀ inner : List Char, (']' ∈ inner ∨ inner = []) → ∀ given,
        ((readHeader kind ⟨n, headerLine inner behind, []⟩).outcome given).1 = .ok none := by
      intro inner hinner given
      have hok : bracketed ⟨n, headerLine inner behind, []⟩ = .ok (Text.trim inner) := by
        rw [bracketed_headerLine hbehind, if_pos hclosed]
      have hensures : (readHeader kind ⟨n, headerLine inner behind, []⟩).Ensures fun _ => True :=
        ensures_readHeader hok
      obtain ⟨header?, after, hread, -⟩ := hensures given
      have hheader : header? = headerIn? kind (headerLine inner behind) :=
        yields_readHeader given _ _ hread
      rw [hread, hheader, headerIn?_headerLine hbehind hinner]
    rw [hend inner hinner, hend inner' hinner']
    exact .ok rfl
  · have hend : ∀ inner : List Char, ∀ given,
        (readHeader kind ⟨n, headerLine inner behind, []⟩).outcome given
          = (.error (.config .afterHeader n), given) := by
      intro inner given
      rw [readHeader, outcome_bind, outcome_ofExcept, bracketed_headerLine hbehind,
        if_neg hclosed]
    rw [hend inner, hend inner']
    exact .error _

/-- What may be cut off the line of a header is behind the header. -/
theorem cut_headerLine {cut : List Char → List Char} (hcut : cut ∈ [id, Text.dropLineEnd])
    (inner behind : List Char) : cut (headerLine inner behind) = headerLine inner (cut behind) :=
  Text.Slot.cut_append_cons hcut (by decide) ('[' :: inner) behind

theorem cut_commented {cut : List Char → List Char} (hcut : cut ∈ [id, Text.dropLineEnd])
    (line : List Char) (mark : Char) (comment : List Char) :
    cut (commented line mark comment) = commented line mark (cut comment) := by
  have hsplit : ∀ comment,
      commented line mark comment = (line ++ [' ', mark]) ++ ' ' :: comment := by
    simp [commented]
  rw [hsplit, hsplit, Text.Slot.cut_append_cons hcut (by decide)]

/-- **Two headers in the same place of a file**: the file is read alike if they are, also if a line
ending takes something off them. -/
theorem lockstep_fill {R : List String → List String → Prop} (hR : KeptByWarning R)
    (slot : Text.Slot) {inner' behind' : List Char} (hline : '\n' ∉ inner ++ behind)
    (hline' : '\n' ∉ inner' ++ behind')
    (hread : ∀ cut ∈ [id, Text.dropLineEnd], ∀ n,
      (readHeader kind ⟨n, headerLine inner (cut behind), []⟩).Lockstep R Eq
        (readHeader kind ⟨n, headerLine inner' (cut behind'), []⟩)) :
    (File.read kind (.ofList (slot.fill (headerLine inner behind)))).Lockstep R Eq
      (File.read kind (.ofList (slot.fill (headerLine inner' behind')))) := by
  obtain ⟨below, cut, hcut, hfill⟩ := slot.exists_lines_fill
  have hlines : ∀ inner behind : List Char, '\n' ∉ inner ++ behind →
      Text.lines (String.ofList (slot.fill (headerLine inner behind))).toList
        = slot.above ++ headerLine inner (cut behind) :: below := by
    intro inner behind hline
    have hwhole : '\n' ∉ headerLine inner behind := by
      simpa [headerLine] using hline
    have hne : headerLine inner behind ≠ [] := List.cons_ne_nil _ _
    rw [String.toList_ofList, hfill _ hne hwhole, cut_headerLine hcut]
  exact lockstep_read hR isHeader_headerLine isHeader_headerLine (hread cut hcut)
    (hlines inner behind hline) (hlines inner' behind' hline')

/-- A comment without a `]` changes nothing, warnings included. -/
theorem parse_eq_of_not_mem (kind : FileKind) (slot : Text.Slot)
    (hbehind : Text.isBlankText behind = true) (hmark : mark = '#' ∨ mark = ';')
    (hline : '\n' ∉ inner ++ behind ++ comment) (hcomment : ']' ∉ comment) :
    File.parse kind (.ofList (slot.fill (commented (headerLine inner behind) mark comment)))
      = File.parse kind (.ofList (slot.fill (headerLine inner behind))) := by
  simp only [List.mem_append, not_or] at hline
  obtain ⟨⟨hinner, hbehindLine⟩, hcommentLine⟩ := hline
  have hwhole : '\n' ∉ inner ++ commented behind mark comment := by
    rcases hmark with rfl | rfl <;> simp [commented, hinner, hbehindLine, hcommentLine]
  have hwhole' : '\n' ∉ inner ++ behind := by simp [hinner, hbehindLine]
  have hread : ∀ cut ∈ [id, Text.dropLineEnd], ∀ n,
      (readHeader kind ⟨n, headerLine inner (cut (commented behind mark comment)), []⟩).Lockstep
        Eq Eq (readHeader kind ⟨n, headerLine inner (cut behind), []⟩) := by
    intro cut hcut n
    have hblank : Text.isBlankText (cut behind) = true :=
      List.all_eq_true.mpr fun c hc =>
        List.all_eq_true.mp hbehind c (Text.Slot.mem_of_mem_cut hcut hc)
    have hout : ']' ∉ cut comment := fun hmem => hcomment (Text.Slot.mem_of_mem_cut hcut hmem)
    rw [cut_commented hcut, readHeader_commented hbehind hblank hmark hout n]
    exact .self _
  rw [commented_headerLine]
  obtain ⟨hend, hwarnings⟩ :=
    lockstep_fill (fun _ _ _ h => h ▸ rfl) slot hwhole hwhole' hread [] [] rfl
  exact Prod.ext hend.eq hwarnings

/-- With a `]` in the comment, the header is that from the first `[` to the last `]`. -/
theorem parse_eq_of_mem (kind : FileKind) (slot : Text.Slot) {front back : List Char}
    (hmark : mark = '#' ∨ mark = ';') (hline : '\n' ∉ inner ++ behind ++ (front ++ ']' :: back))
    (hback : ']' ∉ back) :
    (File.parse kind (.ofList (slot.fill
        (commented (headerLine inner behind) mark (front ++ ']' :: back))))).1
      = (File.parse kind (.ofList (slot.fill (headerLine [] back)))).1 := by
  have hsplit : commented (headerLine inner behind) mark (front ++ ']' :: back)
      = headerLine (inner ++ ']' :: commented behind mark front) back := by
    simp [commented, headerLine]
  simp only [List.mem_append, List.mem_cons, not_or] at hline
  obtain ⟨⟨hinner, hbehind⟩, hfront, -, hbackLine⟩ := hline
  have hwhole : '\n' ∉ (inner ++ ']' :: commented behind mark front) ++ back := by
    rcases hmark with rfl | rfl <;> simp [commented, hinner, hbehind, hfront, hbackLine]
  have hread : ∀ cut ∈ [id, Text.dropLineEnd], ∀ n,
      (readHeader kind
        ⟨n, headerLine (inner ++ ']' :: commented behind mark front) (cut back), []⟩).Lockstep
          (fun _ _ => True) Eq (readHeader kind ⟨n, headerLine [] (cut back), []⟩) := by
    intro cut hcut n
    have hout : ']' ∉ cut back := fun hmem => hback (Text.Slot.mem_of_mem_cut hcut hmem)
    exact lockstep_readHeader_ignored hout (.inl (by simp)) (.inr rfl) n
  rw [hsplit]
  exact (lockstep_fill (fun _ _ _ _ => trivial) slot hwhole hbackLine hread [] [] trivial).1.eq

/-- **A comment behind a header changes nothing**, sections, failures and warnings included, if
there is no `]` in it.  Otherwise the file is read as if nothing stood between the brackets, with
what follows the last `]` of the comment right behind them. -/
theorem parse_commented (kind : FileKind) {text : String} {above below : List (List Char)}
    (hlines : Text.lines text.toList = above ++ headerLine inner behind :: below)
    (hbehind : Text.isBlankText behind = true) :
    (∃ slot : Text.Slot, slot.fill (headerLine inner behind) = text.toList ∧ slot.above = above) ∧
    ∀ slot : Text.Slot, slot.fill (headerLine inner behind) = text.toList →
      ∀ mark ∈ ['#', ';'], ∀ comment, '\n' ∉ comment →
        (']' ∉ comment →
          File.parse kind (.ofList (slot.fill (commented (headerLine inner behind) mark comment)))
            = File.parse kind text) ∧
        ∀ front back, comment = front ++ ']' :: back → ']' ∉ back →
          (File.parse kind
              (.ofList (slot.fill (commented (headerLine inner behind) mark comment)))).1
            = (File.parse kind (.ofList (slot.fill (headerLine [] back)))).1 := by
  refine ⟨Text.exists_fill_eq hlines, fun slot hslot mark hmem comment hcomment => ?_⟩
  have hmark : mark = '#' ∨ mark = ';' := by simpa using hmem
  have hheader : '\n' ∉ inner ++ behind := by
    have hline : headerLine inner behind ∈ Text.lines text.toList := by
      rw [hlines]
      simp
    simpa [headerLine] using Text.newline_not_mem_of_mem_lines hline
  have hline : '\n' ∉ inner ++ behind ++ comment := by
    rw [List.mem_append, not_or]
    exact ⟨hheader, hcomment⟩
  constructor
  · intro hout
    rw [parse_eq_of_not_mem kind slot hbehind hmark hline hout, hslot, String.ofList_toList]
  · rintro front back rfl hback
    exact parse_eq_of_mem kind slot hmark hline hback

end Comment

/-! ### A section that is lost -/

/-- A file whose first line is the header of its only section. -/
def leadingHeader : Text.Slot where
  before := []
  after := "\nregion = us-east-1\n".toList
  opens := .inl rfl
  closes := .inr ⟨_, .inl rfl⟩

/-- The header `[profile dev]`. -/
def devHeader : List Char := headerLine "profile dev".toList []

theorem parse_commented_devHeader :
    File.parse .config (.ofList (leadingHeader.fill (commented devHeader '#' "see 1".toList)))
        = File.parse .config "[profile dev]\nregion = us-east-1\n" ∧
      (File.parse .config
          (.ofList (leadingHeader.fill (commented devHeader '#' "see [1]".toList)))).1
        = (File.parse .config (.ofList (leadingHeader.fill (headerLine [] [])))).1 := by
  have hlines : Text.lines "[profile dev]\nregion = us-east-1\n".toList
      = [] ++ devHeader :: ["region = us-east-1".toList] := by decide +kernel
  obtain ⟨-, hread⟩ := parse_commented .config hlines rfl
  have hslot : leadingHeader.fill devHeader = "[profile dev]\nregion = us-east-1\n".toList := by
    decide +kernel
  constructor
  · exact (hread leadingHeader hslot '#' (by simp) "see 1".toList (by decide)).1 (by decide)
  · exact (hread leadingHeader hslot '#' (by simp) "see [1]".toList (by decide)).2
      "see [1".toList [] (by decide) (by decide)

/-- With the comment `# see [1]` the section is lost, and with `# see [1] for more` the file cannot
be read any more. -/
theorem not_transparent_devHeader :
    (File.parse .config (.ofList (leadingHeader.fill (commented devHeader '#' "see [1]".toList)))).1
        ≠ (File.parse .config (.ofList (leadingHeader.fill devHeader))).1 ∧
      (File.parse .config
          (.ofList (leadingHeader.fill (commented devHeader '#' "see [1] for more".toList)))).1
        ≠ (File.parse .config (.ofList (leadingHeader.fill devHeader))).1 := by
  have hplain : (File.parse .config (.ofList (leadingHeader.fill devHeader))).1
      = .ok { profiles := [("dev", ⟨"dev", [("region", "us-east-1")]⟩)] } := by
    rw [File.parse, File.read, String.toList_ofList]
    exact toOption_eq_some_iff.mp (by decide +kernel)
  have hlost : (File.parse .config
      (.ofList (leadingHeader.fill (commented devHeader '#' "see [1]".toList)))).1 = .ok {} := by
    rw [File.parse, File.read, String.toList_ofList]
    exact toOption_eq_some_iff.mp (by decide +kernel)
  have hunread : (File.parse .config
      (.ofList (leadingHeader.fill (commented devHeader '#' "see [1] for more".toList)))).1
        = .error (.config .afterHeader 1) := by
    rw [File.parse, File.read, String.toList_ofList]
    rfl
  rw [hplain, hlost, hunread]
  exact ⟨by simp, by simp⟩

end AwsSigning.SharedConfig
