/-
AwsSigning/Proofs/SharedConfig/Reading.lean

What the two passes make of a document.

The first pass gives one logical line for each heading and each property, and
what was folded onto it are the texts of its continuations (`body`).  Numbers
of lines play no part in that, so the pass is followed on the numbered lines
that are left when blank lines and comments are gone (`exists_foldLines`).

In the second pass a heading is read as the header it is about, and a property
as the key and the value that it defines.  So the pass takes in one entry
after the other (`Grouping.take`), and neither lines nor line numbers are
needed to say what it does (`ensures_foldlM_document`).
-/
import AwsSigning.Proofs.SharedConfig.Document
import AwsSigning.Proofs.SharedConfig.Grouping
import AwsSigning.Proofs.Steps

namespace AwsSigning.SharedConfig

variable {kind : FileKind} {doc : Document kind}

/-! ### Physical lines -/

/-- What all lines of a document have in common. -/
structure IsWritten (line : List Char) : Prop where
  oneLine : '\n' ∉ line
  notSkipped : isSkipped line = false
  ended : Text.dropLineEnd line = line

theorem isWritten_of_mem_lines : ∀ line ∈ doc.flatMap Entry.lines, IsWritten line := by
  intro line hline
  obtain ⟨e, -, he⟩ := List.mem_flatMap.mp hline
  rcases List.mem_cons.mp he with rfl | he
  · exact ⟨e.heading.newline_not_mem_line, (not_isSkipped_of_isHeader e.heading.isHeader_line).1,
      e.heading.dropLineEnd_line⟩
  obtain ⟨p, -, hp⟩ := List.mem_flatMap.mp he
  rcases List.mem_cons.mp hp with rfl | hp
  · exact ⟨p.newline_not_mem_first, (isPlain_iff.mp p.isPlain_first).1, p.dropLineEnd_first⟩
  obtain ⟨c, -, rfl⟩ := List.mem_map.mp hp
  exact ⟨c.oneLine, (isFolded_iff.mp c.isFolded_line).1, c.dropLineEnd_line⟩

/-- An ending takes nothing of a line that would make it count. -/
theorem isSkipped_dropLineEnd {line : List Char} (h : isSkipped line = true) :
    isSkipped (Text.dropLineEnd line) = true := by
  unfold Text.dropLineEnd
  split
  · next rest hreverse =>
    have hline : line = rest.reverse ++ ['\r'] := by
      rw [← List.reverse_reverse line, hreverse, List.reverse_cons]
    rw [isSkipped, Bool.or_eq_true] at h ⊢
    rcases h with hblank | hcomment
    · rw [hline, Text.isBlankText, List.all_append, Bool.and_eq_true] at hblank
      exact .inl hblank.1
    · rcases hrest : rest.reverse with - | ⟨c, front⟩
      · exact .inl rfl
      · rw [hline, hrest] at hcomment
        exact .inr hcomment
  · exact h

/-- The lines that count are those that were written. -/
theorem LaidOut.filter_eq {lines written : List (List Char)} (h : LaidOut lines written)
    (hwritten : ∀ line ∈ written, IsWritten line) :
    lines.filter (fun line => !isSkipped line) = written ∧
      ∀ line ∈ lines, '\n' ∉ line ∧ (isSkipped line = false → Text.dropLineEnd line = line) := by
  induction h with
  | done => simp
  | line line _ ih =>
    have hline : IsWritten line := hwritten line List.mem_cons_self
    obtain ⟨hfilter, hlines⟩ := ih fun l hl => hwritten l (List.mem_cons_of_mem _ hl)
    rw [List.filter_cons_of_pos (by simp [hline.notSkipped]), hfilter]
    exact ⟨rfl, List.forall_mem_cons.mpr ⟨⟨hline.oneLine, fun _ => hline.ended⟩, hlines⟩⟩
  | skip hskip hnewline _ ih =>
    obtain ⟨hfilter, hlines⟩ := ih hwritten
    rw [List.filter_cons_of_neg (by simp [hskip]), hfilter]
    refine ⟨rfl, List.forall_mem_cons.mpr ⟨⟨hnewline, fun hcounts => ?_⟩, hlines⟩⟩
    rw [hskip] at hcounts
    cases hcounts

/-- **Of a text that spells a document, the lines that count are those of the document.** -/
theorem Spells.filter_lines {text : String} (h : Spells text doc) :
    (Text.lines text.toList).filter (fun line => !isSkipped line) = doc.flatMap Entry.lines := by
  obtain ⟨lines, hlaid, htext⟩ := h
  obtain ⟨hfilter, hlines⟩ := hlaid.filter_eq isWritten_of_mem_lines
  rw [htext, Text.lines_intercalate fun line hline => (hlines line hline).1,
    Text.filter_linesOfPieces, hfilter]
  · intro line hline hcounts
    exact (hlines line hline).2 (by simpa using hcounts)
  · intro line _ hskip
    rw [Bool.not_eq_false'] at hskip ⊢
    exact isSkipped_dropLineEnd hskip
  · rfl

/-! ### The first pass -/

/-- What a logical line holds, wherever it stands. -/
def Line.body (l : Line) : List Char × List (List Char) := (l.first, l.folded)

/-- The logical line of a property. -/
def Property.body (p : Property) : List Char × List (List Char) :=
  (p.first, p.continuations.map Continuation.text)

/-- The logical lines of an entry. -/
def Entry.bodies (e : Entry kind) : List (List Char × List (List Char)) :=
  (e.heading.line, []) :: e.properties.map Property.body

namespace Folding

/-- Numbered lines taken in one by one. -/
def runNumbered (state : Folding) (lines : List (List Char × Nat)) : Except Error Folding :=
  lines.foldlM (fun state line => state.step line.2 line.1) state

/-- Lines that are passed over need not be there. -/
theorem run_eq_runNumbered (state : Folding) (n : Nat) (lines : List (List Char)) :
    state.run n lines
      = state.runNumbered ((lines.zipIdx n).filter fun line => !isSkipped line.1) := by
  induction lines generalizing state n with
  | nil => rfl
  | cons line lines ih =>
    rw [List.zipIdx_cons, run]
    rcases hskip : isSkipped line with - | -
    · rw [List.filter_cons_of_pos (by simp [hskip]), runNumbered, List.foldlM_cons]
      rcases state.step n line with e | next
      · rfl
      · exact ih next (n + 1)
    · rw [List.filter_cons_of_neg (by simp [hskip]), step_of_isSkipped hskip]
      exact ih state (n + 1)

variable {state : Folding} {numbered more : List (List Char × Nat)}
  {bodies : List (List Char × List (List Char))}

/-- Lines are taken in below a header, and these are the logical lines that they make. -/
def Gives (state : Folding) (numbered : List (List Char × Nat))
    (bodies : List (List Char × List (List Char))) : Prop :=
  ∃ state', state.runNumbered numbered = .ok state' ∧ state'.inSection = true ∧
    state'.lines.reverse.map Line.body = state.lines.reverse.map Line.body ++ bodies

theorem gives_nil (h : state.inSection = true) : state.Gives [] [] :=
  ⟨state, rfl, h, by simp⟩

theorem Gives.append {bodies' : List (List Char × List (List Char))}
    (h : state.Gives numbered bodies)
    (hmore : ∀ state' : Folding, state'.inSection = true → state'.Gives more bodies') :
    state.Gives (numbered ++ more) (bodies ++ bodies') := by
  obtain ⟨middle, hrun, hsection, hlines⟩ := h
  obtain ⟨last, hrun', hsection', hlines'⟩ := hmore middle hsection
  refine ⟨last, ?_, hsection', ?_⟩
  · rw [runNumbered, List.foldlM_append]
    exact bind_eq_ok_iff.mpr ⟨middle, hrun, hrun'⟩
  · rw [hlines', hlines, List.append_assoc]

/-- **The lines below a property are folded onto it.** -/
theorem exists_run_continuations {cs : List Continuation} {last : Line} {before : List Line}
    (hnumbered : numbered.map Prod.fst = cs.map Continuation.line)
    (hsection : state.inSection = true) (hproperty : state.inProperty = true)
    (hlines : state.lines = last :: before) (hmark : '=' ∈ last.first)
    (hblock : state.inBlock = true → blankValue last.first = true)
    (hsub : blankValue last.first = true → ∀ c ∈ cs, isSubProperty c.line = true) :
    ∃ state' last', state.runNumbered numbered = .ok state' ∧ state'.inSection = true ∧
      state'.lines = last' :: before ∧
        last'.body = (last.first, last.folded ++ cs.map Continuation.text) := by
  -- the induction is on the lines to come; the flag may be set on the way, but only in a block
  induction cs generalizing state numbered last with
  | nil =>
    obtain rfl : numbered = [] := List.map_eq_nil_iff.mp hnumbered
    exact ⟨state, last, rfl, hsection, hlines, by simp [Line.body]⟩
  | cons c cs ih =>
    obtain ⟨⟨_, n⟩, numbered, rfl, rfl, hcs⟩ := List.map_eq_cons_iff.mp hnumbered
    have hvalue : (state.inBlock || last.hasBlankValue) = true → blankValue last.first = true := by
      intro h
      rcases Bool.or_eq_true_iff.mp h with hflag | hblank
      · exact hblock hflag
      · exact Line.blankValue_of_hasBlankValue hmark hblank
    have hkey : ((state.inBlock || last.hasBlankValue) && !isSubProperty c.line) = false := by
      rcases hflag : (state.inBlock || last.hasBlankValue) with - | -
      · rfl
      · rw [hsub (hvalue hflag) c List.mem_cons_self]
        rfl
    have hstep : state.step n c.line = .ok { state with
        lines := last.fold c.line :: before, inBlock := state.inBlock || last.hasBlankValue } := by
      rw [step_of_isFolded c.isFolded_line, continueWith, hsection, hproperty, hlines]
      simp only [Bool.not_true, Bool.false_eq_true, if_false, hkey]
    obtain ⟨state', last', hrun, hsection', hlines', hbody⟩ :=
      @ih { state with
        lines := last.fold c.line :: before, inBlock := state.inBlock || last.hasBlankValue }
        numbered (last.fold c.line) hcs hsection hproperty rfl hmark hvalue
        fun hblank d hd => hsub hblank d (List.mem_cons_of_mem _ hd)
    refine ⟨state', last', ?_, hsection', hlines', ?_⟩
    · rw [runNumbered, List.foldlM_cons]
      exact bind_eq_ok_iff.mpr ⟨_, hstep, hrun⟩
    · rw [hbody]
      simp [Line.fold, c.trim_line]

/-- A property makes one logical line. -/
theorem gives_property (p : Property) (hsection : state.inSection = true)
    (hnumbered : numbered.map Prod.fst = p.lines) : state.Gives numbered [p.body] := by
  obtain ⟨⟨_, n⟩, numbered, rfl, rfl, hcs⟩ := List.map_eq_cons_iff.mp hnumbered
  have hmark : '=' ∈ p.first := by simp [Property.first]
  have hstep : state.step n p.first = .ok { state with
      lines := { number := n, first := p.first } :: state.lines
      inProperty := true
      inBlock := false } := by
    rw [step_of_isPlain p.isPlain_first]
    simp [hmark]
  -- in a block every continuation has a key
  have hsub : blankValue p.first = true → ∀ c ∈ p.continuations, isSubProperty c.line = true := by
    intro hblank c hc
    obtain ⟨hkey, hfront⟩ := p.block (p.blankValue_first.mp hblank) c hc
    exact c.isSubProperty_line hkey hfront
  obtain ⟨state', last, hrun, hsection', hlines, hbody⟩ :=
    @exists_run_continuations { state with
      lines := { number := n, first := p.first } :: state.lines
      inProperty := true
      inBlock := false } numbered p.continuations { number := n, first := p.first } state.lines
      hcs hsection rfl rfl hmark (fun h => by cases h) hsub
  refine ⟨state', ?_, hsection', ?_⟩
  · rw [runNumbered, List.foldlM_cons]
    exact bind_eq_ok_iff.mpr ⟨_, hstep, hrun⟩
  · rw [hlines, List.reverse_cons, List.map_append, List.map_singleton, hbody]
    rfl

theorem gives_properties (ps : List Property) (hsection : state.inSection = true)
    (hnumbered : numbered.map Prod.fst = ps.flatMap Property.lines) :
    state.Gives numbered (ps.map Property.body) := by
  induction ps generalizing state numbered with
  | nil =>
    obtain rfl : numbered = [] := List.map_eq_nil_iff.mp hnumbered
    exact gives_nil hsection
  | cons p ps ih =>
    rw [List.flatMap_cons] at hnumbered
    obtain ⟨first, rest, rfl, hfirst, hrest⟩ := List.map_eq_append_iff.mp hnumbered
    exact (gives_property p hsection hfirst).append fun _ hsection' => ih hsection' hrest

/-- An entry makes one logical line for its heading and one for each property; nothing is asked of
what stands above it. -/
theorem gives_entry (e : Entry kind) (hnumbered : numbered.map Prod.fst = e.lines) :
    state.Gives numbered e.bodies := by
  obtain ⟨⟨_, n⟩, numbered, rfl, rfl, hps⟩ := List.map_eq_cons_iff.mp hnumbered
  have hstep := step_of_isHeader e.heading.isHeader_line state n
  have hheading : state.Gives [(e.heading.line, n)] [(e.heading.line, [])] :=
    ⟨_, bind_eq_ok_iff.mpr ⟨_, hstep, rfl⟩, rfl, by simp [Line.body]⟩
  exact hheading.append fun _ hsection => gives_properties e.properties hsection hps

/-- The lines of a document make the logical lines of its entries. -/
theorem exists_run_document (hnumbered : numbered.map Prod.fst = doc.flatMap Entry.lines) :
    ∃ state', state.runNumbered numbered = .ok state' ∧
      state'.lines.reverse.map Line.body
        = state.lines.reverse.map Line.body ++ doc.flatMap Entry.bodies := by
  induction doc generalizing state numbered with
  | nil =>
    obtain rfl : numbered = [] := List.map_eq_nil_iff.mp hnumbered
    exact ⟨state, rfl, by simp⟩
  | cons e doc ih =>
    rw [List.flatMap_cons] at hnumbered
    obtain ⟨first, rest, rfl, hfirst, hrest⟩ := List.map_eq_append_iff.mp hnumbered
    obtain ⟨middle, hrun, -, hlines⟩ := @gives_entry kind state first e hfirst
    obtain ⟨last, hrun', hlines'⟩ := @ih middle rest hrest
    refine ⟨last, ?_, ?_⟩
    · rw [runNumbered, List.foldlM_append]
      exact bind_eq_ok_iff.mpr ⟨middle, hrun, hrun'⟩
    · rw [hlines', hlines, List.flatMap_cons, List.append_assoc]

end Folding

/-- **The first pass gives a logical line for each heading and each property.** -/
theorem exists_foldLines {text : String} (h : Spells text doc) :
    ∃ lines, foldLines text.toList = .ok lines ∧
      lines.map Line.body = doc.flatMap Entry.bodies := by
  have hnumbered : (((Text.lines text.toList).zipIdx 1).filter
      fun line => !isSkipped line.1).map Prod.fst = doc.flatMap Entry.lines := by
    rw [← h.filter_lines]
    calc _ = (((Text.lines text.toList).zipIdx 1).map Prod.fst).filter
          fun line => !isSkipped line := List.filter_map.symm
      _ = _ := by rw [List.zipIdx_map_fst]
  obtain ⟨state, hrun, hlines⟩ := @Folding.exists_run_document kind doc {} _ hnumbered
  refine ⟨state.lines.reverse, ?_, hlines⟩
  rw [foldLines, Folding.run_eq_runNumbered, hrun]
  rfl

/-! ### Headings and properties -/

open Operation

variable {line : Line}

theorem Heading.trim_inner (h : Heading kind) : Text.trim h.inner = h.inner := by
  cases h with
  | default => decide
  | prefixed kind name legal =>
    have hword : isIdentifier kind.word = true := word_isIdentifier kind
    show Text.trim (kind.word ++ ' ' :: name) = kind.word ++ ' ' :: name
    rw [List.append_cons]
    exact Text.trim_append_middle (Text.trim_of_not_blank (isBlank_of_isIdentifier hword))
      (ne_nil_of_isIdentifier hword) (Text.trim_of_not_blank (isBlank_of_isIdentifier legal))
      (ne_nil_of_isIdentifier legal) [' ']
  | bare name legal => exact Text.trim_of_not_blank (isBlank_of_isIdentifier legal)

theorem bracketed_heading (h : Heading kind) (hline : line.first = h.line) :
    bracketed line = .ok h.inner := by
  have hsplit : Text.splitLast? ']' line.first = some ('[' :: h.inner, []) := by
    rw [hline, Heading.line]
    exact Text.splitLast?_append List.not_mem_nil
  rw [bracketed, hsplit]
  show Except.ok (Text.trim h.inner) = _
  rw [h.trim_inner]

theorem words_inner_prefixed {sectionKind : SectionKind} {name : List Char}
    (legal : isIdentifier name = true) :
    Text.words (sectionKind.word ++ ' ' :: name) = [sectionKind.word, name] := by
  have hword : isIdentifier sectionKind.word = true := Heading.word_isIdentifier sectionKind
  rw [Text.words_append_cons (ne_nil_of_isIdentifier hword) (isBlank_of_isIdentifier hword)
    (by decide), Text.words_of_word (ne_nil_of_isIdentifier legal) (isBlank_of_isIdentifier legal)]

theorem ofWord?_word (sectionKind : SectionKind) :
    SectionKind.ofWord? sectionKind.word = some sectionKind := by
  cases sectionKind <;> decide

/-- The name in a heading is one that is not passed over. -/
theorem Heading.isIdentifier_name (h : Heading kind) :
    isIdentifier h.header.name.toList = true := by
  cases h with
  | default => decide
  | prefixed _ name legal =>
    show isIdentifier (String.ofList name).toList = true
    rw [String.toList_ofList]
    exact legal
  | bare name legal =>
    show isIdentifier (String.ofList name).toList = true
    rw [String.toList_ofList]
    exact legal

/-- **A heading is read as what it is about.** -/
theorem ensures_readHeader_heading (h : Heading kind) (hline : line.first = h.line) :
    (readHeader kind line).Ensures (· = some h.header) := by
  refine (ensures_ofExcept (bracketed_heading h hline) rfl).bind ?_
  rintro _ rfl
  cases h with
  | default =>
    refine (ensures_pure (P := (· = some Heading.default.header)) rfl).bind ?_
    rintro _ rfl
    exact ensures_pure rfl
  | prefixed sectionKind name legal =>
    have hwords : (configHeader (sectionKind.word ++ ' ' :: name) line.number).Ensures
        (· = some (Heading.prefixed sectionKind name legal).header) := by
      rw [configHeader, words_inner_prefixed legal]
      dsimp only
      rw [ofWord?_word]
      exact ensures_pure rfl
    refine hwords.bind ?_
    rintro _ rfl
    dsimp only
    rw [if_pos (Heading.prefixed sectionKind name legal).isIdentifier_name]
    exact ensures_pure rfl
  | bare name legal =>
    refine (ensures_pure (P := (· = some (Heading.bare name legal).header)) rfl).bind ?_
    rintro _ rfl
    dsimp only
    rw [if_pos (Heading.bare name legal).isIdentifier_name]
    exact ensures_pure rfl

/-- A mark that starts no comment is kept, and with it all that stands in front of what follows. -/
theorem untilComment_append {last : Char} {rest : List Char} (h : Uncommented (last :: rest))
    (more : List Char) :
    untilComment last (rest ++ more) = rest ++ untilComment (rest.getLastD last) more := by
  induction rest generalizing last with
  | nil => rfl
  | cons c rest ih =>
    obtain ⟨hc, hrest⟩ := List.isChain_cons_cons.mp h
    have hkept : ((c = '#' || c = ';') && Text.isAsciiBlank last : Bool) = false := by
      rcases hblank : Text.isAsciiBlank last with - | -
      · rw [Bool.and_false]
      · simp [hc hblank]
    rw [List.cons_append, untilComment, hkept, ih hrest, List.getLastD_cons]
    rfl

theorem stripComment_eq_self {value : List Char} (htrim : Text.trim value = value)
    (h : Uncommented value) : stripComment value = value := by
  rcases value with - | ⟨c, rest⟩
  · rfl
  · have hkept : untilComment c rest = rest := by
      have hall := untilComment_append h []
      rwa [List.append_nil, untilComment, List.append_nil] at hall
    rw [stripComment, hkept]
    exact (Text.trim_eq_self_iff.mp htrim).2

/-- Nothing is left of a value only if there was nothing of it. -/
theorem stripComment_trim_eq_nil_iff {value : List Char} :
    stripComment (Text.trim value) = [] ↔ Text.isBlankText value = true := by
  rw [← Text.isBlankText_trim]
  rcases htrim : Text.trim value with - | ⟨c, rest⟩
  · exact ⟨fun _ => rfl, fun _ => rfl⟩
  · have hvisible : Text.isBlank c = false :=
      Text.not_isBlank_of_head?_trim (s := value) (by rw [htrim]; rfl)
    rw [stripComment, Text.trimEnd_cons hvisible, Text.isBlankText, List.all_cons, hvisible]
    simp

theorem Property.stripComment_value (p : Property) : stripComment p.value = p.value :=
  stripComment_eq_self p.trimmed p.uncommented

/-- **A property is read as what it defines.** -/
theorem propertyOfLine_property (p : Property) (hline : line.body = p.body) :
    propertyOfLine line = (p.key, p.text) := by
  obtain ⟨hfirst, hfolded⟩ := Prod.mk.inj hline
  have hkey : Text.trim (p.key ++ [' ']) = p.key :=
    Text.trim_append_right (by decide)
      (Text.trim_of_not_blank (isBlank_of_isIdentifier p.identifier))
  have hvalue : Text.trim (' ' :: p.value) = p.value :=
    Text.trim_append_left (s := [' ']) (by decide) p.trimmed
  rw [propertyOfLine, hfirst, p.splitFirst?_first, hfolded]
  simp only [Option.getD_some, hkey, hvalue, p.stripComment_value]
  rfl

/-! ### The second pass -/

namespace Grouping

variable {state : Grouping} {lines : List Line}

/-- An entry taken in: its section is there from now on, and its properties are written to it. -/
def take (state : Grouping) (e : Entry kind) : Grouping :=
  e.properties.foldl
    (fun state p => state.define e.heading.header p.definition.1 p.definition.2)
    (state.enter e.heading.header)

theorem ensures_step_heading (h : Heading kind) (hline : line.first = h.line) :
    (step kind state line).Ensures (· = state.enter h.header) := by
  have hheader : isHeader line.first = true := by
    rw [hline]
    exact h.isHeader_line
  rw [step, if_pos hheader]
  refine (ensures_readHeader_heading h hline).bind ?_
  rintro _ rfl
  exact ensures_pure rfl

theorem ensures_step_definition {header : Header} (p : Property) (hline : line.body = p.body)
    (hplace : state.place = .under header) :
    (step kind state line).Ensures
      (· = state.define header p.definition.1 p.definition.2) := by
  have hfirst : line.first = p.first := (Prod.mk.inj hline).1
  have hheader : isHeader line.first = false := by
    rw [hfirst]
    exact (isPlain_iff.mp p.isPlain_first).2.1
  have hmark : '=' ∈ line.content := by
    obtain ⟨more, hcontent⟩ := line.exists_content
    rw [hcontent, hfirst]
    simp [Property.first]
  rw [step, if_neg (by simp [hheader]), if_neg (by simp [hmark]), hplace]
  dsimp only
  rw [property, propertyOfLine_property p hline]
  dsimp only
  rw [if_neg (by simp [p.identifier])]
  -- whether there is a warning or not, the value is written
  split
  · exact (ensures_warn _).bind fun _ _ => ensures_pure rfl
  · exact ensures_pure rfl

theorem ensures_foldlM_properties {header : Header} (ps : List Property)
    (hlines : lines.map Line.body = ps.map Property.body) (hplace : state.place = .under header) :
    (lines.foldlM (step kind) state).Ensures
      (· = ps.foldl (fun state p => state.define header p.definition.1 p.definition.2) state) := by
  induction ps generalizing state lines with
  | nil =>
    obtain rfl : lines = [] := List.map_eq_nil_iff.mp hlines
    exact ensures_pure rfl
  | cons p ps ih =>
    obtain ⟨l, lines, rfl, hl, hrest⟩ := List.map_eq_cons_iff.mp hlines
    rw [List.foldlM_cons]
    refine (ensures_step_definition p hl hplace).bind ?_
    rintro _ rfl
    exact ih hrest hplace

theorem ensures_foldlM_entry (e : Entry kind) (hlines : lines.map Line.body = e.bodies) :
    (lines.foldlM (step kind) state).Ensures (· = state.take e) := by
  obtain ⟨l, lines, rfl, hl, hrest⟩ := List.map_eq_cons_iff.mp hlines
  rw [List.foldlM_cons]
  refine (ensures_step_heading e.heading (Prod.mk.inj hl).1).bind ?_
  rintro _ rfl
  have hplace : (state.enter e.heading.header).place = .under e.heading.header := by
    unfold enter
    split <;> rfl
  exact ensures_foldlM_properties e.properties hrest hplace

/-- **The second pass takes in one entry after the other.** -/
theorem ensures_foldlM_document (hlines : lines.map Line.body = doc.flatMap Entry.bodies) :
    (lines.foldlM (step kind) state).Ensures (· = doc.foldl take state) := by
  induction doc generalizing state lines with
  | nil =>
    obtain rfl : lines = [] := List.map_eq_nil_iff.mp hlines
    exact ensures_pure rfl
  | cons e doc ih =>
    rw [List.flatMap_cons] at hlines
    obtain ⟨first, rest, rfl, hfirst, hrest⟩ := List.map_eq_append_iff.mp hlines
    rw [List.foldlM_append]
    refine (ensures_foldlM_entry e hfirst).bind ?_
    rintro _ rfl
    exact ih hrest

end Grouping

end AwsSigning.SharedConfig
