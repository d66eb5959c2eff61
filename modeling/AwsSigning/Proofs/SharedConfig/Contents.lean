/-
AwsSigning/Proofs/SharedConfig/Contents.lean

What a file holds, read off its lines.

A text may be written in many ways that no document is (comments behind values
and headers, headers with white space in them, keys that are no identifiers),
and still be read without a failure.  Then every line says at most one thing: a
section with a header is there, or a key is defined in it (`Statement`).  Which
section that is depends on the last header above (`headerBelow`), and a value
depends on the lines folded below.

What has been grouped is what the statements so far come to (`sectionsOf`): a
section for each header, in order of appearance, with all that is defined under
it.  One more line keeps that up (`Grouping.Holds.step`), and so do all lines
together (`Grouping.Holds.foldlM`).  So a file that was read without a failure holds what its
lines say (`filed_of_parse`).
-/
import AwsSigning.Proofs.SharedConfig.Logical
import AwsSigning.Proofs.SharedConfig.Meaning

namespace AwsSigning.SharedConfig

open Operation

variable {kind : FileKind} {line : Line} {header : Header} {raw : List Char}
  {lines above below : List (List Char)}

/-! ### Headers -/

/-- What some words are about between the brackets of a config file, unless they are passed
over. -/
def headerOfWords? : List (List Char) → Option Header
  | [name] => if name = "default".toList then some ⟨.profile, "default", false⟩ else none
  | [word, name] =>
    (SectionKind.ofWord? word).map fun sectionKind => ⟨sectionKind, String.ofList name, true⟩
  | _ => none

/-- What stands between the brackets is about this, unless it is passed over. -/
def headerOf? (kind : FileKind) (inner : List Char) : Option Header :=
  match kind with
  | .credentials => some ⟨.profile, String.ofList inner, false⟩
  | .config => headerOfWords? (Text.words inner)

/-- What a header line is about, unless its section is passed over. -/
def headerIn? (kind : FileKind) (raw : List Char) : Option Header :=
  ((Text.splitLast? ']' raw).bind fun (before, _) =>
    headerOf? kind (Text.trim (before.drop 1))).filter fun header =>
      isIdentifier header.name.toList

theorem exists_heading_of_words {words : List (List Char)} (h : headerOfWords? words = some header)
    (hlegal : isIdentifier header.name.toList = true) :
    ∃ heading : Heading .config, header = heading.header := by
  unfold headerOfWords? at h
  split at h
  · split at h
    · cases h
      exact ⟨.default, rfl⟩
    · cases h
  · obtain ⟨sectionKind, -, rfl⟩ := Option.map_eq_some_iff.mp h
    exact ⟨.prefixed sectionKind _ (by simpa using hlegal), rfl⟩
  · cases h

/-- Every header that counts is that of a heading. -/
theorem exists_heading (h : headerIn? kind raw = some header) :
    ∃ heading : Heading kind, header = heading.header := by
  obtain ⟨hbind, hlegal⟩ := Option.filter_eq_some_iff.mp h
  obtain ⟨⟨before, after⟩, -, hof⟩ := Option.bind_eq_some_iff.mp hbind
  dsimp only at hof
  generalize Text.trim (before.drop 1) = inner at hof
  cases kind with
  | credentials =>
    cases hof
    exact ⟨.bare inner (by simpa using hlegal), rfl⟩
  | config => exact exists_heading_of_words hof hlegal

/-- The words between the brackets are read as what they are about. -/
theorem yields_configHeader (inner : List Char) (number : Nat) :
    (configHeader inner number).Yields (· = headerOfWords? (Text.words inner)) := by
  have hunprefixed : (configHeader.unprefixed inner number).Yields (· = none) :=
    (yields_true _).bind fun _ _ => yields_pure rfl
  unfold configHeader
  generalize Text.words inner = words
  rcases words with - | ⟨word, - | ⟨name, - | ⟨other, words⟩⟩⟩
  · exact hunprefixed
  · dsimp only [headerOfWords?]
    split
    · exact yields_pure rfl
    · exact hunprefixed
  · dsimp only [headerOfWords?]
    rcases SectionKind.ofWord? word with - | sectionKind
    · exact (yields_true _).bind fun _ _ => yields_pure rfl
    · exact yields_pure rfl
  · exact hunprefixed

/-- A header is passed over, with a warning, if its name is no identifier. -/
theorem yields_legal (header : Header) (text : String) :
    (if isIdentifier header.name.toList then pure (some header)
      else do
        warn text
        pure none : Reader (Option Header)).Yields
      (· = (some header).filter fun header => isIdentifier header.name.toList) := by
  split
  · next hlegal => exact yields_pure (by simp [Option.filter, hlegal])
  · next hlegal =>
    exact (yields_true _).bind fun _ _ => yields_pure (by simp [Option.filter, hlegal])

/-- **A header line is read as what it is about.** -/
theorem yields_readHeader :
    (readHeader kind line).Yields (· = headerIn? kind line.first) := by
  refine (yields_ofExcept (bracketed line)).bind fun inner hinner => ?_
  have hof : headerIn? kind line.first
      = (headerOf? kind inner).filter fun header => isIdentifier header.name.toList := by
    unfold bracketed at hinner
    split at hinner
    · cases hinner
    · next before after hsplit =>
      dsimp only at hinner
      split at hinner
      · cases hinner
        simp [headerIn?, hsplit]
      · cases hinner
  cases kind with
  | credentials =>
    refine (yields_pure (P := (· = headerOf? .credentials inner)) rfl).bind ?_
    rintro _ rfl
    rw [hof]
    exact yields_legal _ _
  | config =>
    refine (yields_configHeader inner line.number).bind ?_
    rintro _ rfl
    rw [hof, headerOf?]
    rcases headerOfWords? (Text.words inner) with - | header
    · exact yields_pure rfl
    · exact yields_legal header _

/-! ### Statements -/

/-- A section with a header is there, and perhaps a key is defined in it. -/
structure Statement where
  header : Header
  definition : Option (String × String) := none

/-- The header that counts below a line, given the one that counts above it. -/
def headerBelow (kind : FileKind) (current : Option Header) (raw : List Char) : Option Header :=
  if isHeader raw then headerIn? kind raw else current

/-- The key in a line, and its value on that line without a comment. -/
def ownProperty (raw : List Char) : List Char × List Char :=
  let (key, value) := (Text.splitFirst? '=' raw).getD (raw, [])
  (Text.trim key, stripComment (Text.trim value))

theorem ownProperty_of_split {before value : List Char} (h : '=' ∉ before) :
    ownProperty (before ++ '=' :: value) = (Text.trim before, stripComment (Text.trim value)) := by
  rw [ownProperty, Text.splitFirst?_append h]
  rfl

/-- The key that a property line defines, and its value with the lines that are folded onto it. -/
def definition? (raw : List Char) (folded : List (List Char)) : Option (String × String) :=
  if isIdentifier (ownProperty raw).1 then
    some (String.ofList (ownProperty raw).1,
      String.ofList (List.intercalate ['\n'] ((ownProperty raw).2 :: folded.map Text.trim)))
  else none

/-- What a line says, given the header that counts above it and the lines below it. -/
def statement? (kind : FileKind) (current : Option Header) (raw : List Char)
    (below : List (List Char)) : Option Statement :=
  if isHeader raw then (headerIn? kind raw).map fun header => { header }
  else if isPlain raw then
    current.bind fun header =>
      (definition? raw (foldedBelow below)).map fun definition => ⟨header, some definition⟩
  else none

/-- What the lines of a file say, given the header that counts above them. -/
def statements (kind : FileKind) : Option Header → List (List Char) → List Statement
  | _, [] => []
  | current, raw :: below =>
    (statement? kind current raw below).toList
      ++ statements kind (headerBelow kind current raw) below

theorem statements_append (current : Option Header) (above rest : List (List Char)) :
    ∃ front, statements kind current (above ++ rest)
      = front ++ statements kind (above.foldl (headerBelow kind) current) rest := by
  induction above generalizing current with
  | nil => exact ⟨[], rfl⟩
  | cons raw above ih =>
    obtain ⟨front, hfront⟩ := ih (headerBelow kind current raw)
    rw [List.cons_append, statements, hfront, ← List.append_assoc]
    exact ⟨_, rfl⟩

/-- A file can be cut above a line that opens something. -/
theorem statements_append_of_opens (h : ∀ line ∈ below.head?, opens line = true)
    (current : Option Header) (above : List (List Char)) :
    statements kind current (above ++ below)
      = statements kind current above
        ++ statements kind (above.foldl (headerBelow kind) current) below := by
  induction above generalizing current with
  | nil => rfl
  | cons raw above ih =>
    rw [List.cons_append, statements, statements, statement?, statement?,
      foldedBelow_append_of_opens h, ih, List.append_assoc, List.foldl_cons]

/-- Whatever is said is said in some line. -/
theorem mem_statements {current : Option Header} {said : Statement}
    (h : said ∈ statements kind current lines) :
    ∃ above raw below, lines = above ++ raw :: below ∧
      statement? kind (above.foldl (headerBelow kind) current) raw below = some said := by
  induction lines generalizing current with
  | nil => cases h
  | cons raw lines ih =>
    rw [statements, List.mem_append, Option.mem_toList] at h
    rcases h with h | h
    · exact ⟨[], raw, lines, rfl, h⟩
    · obtain ⟨above, first, below, rfl, hsaid⟩ := ih h
      exact ⟨raw :: above, first, below, rfl, hsaid⟩

/-! ### Sections -/

/-- The headers, in order, with repetitions. -/
def headersOf (said : List Statement) : List Header := said.map Statement.header

/-- What is defined under a header, in order. -/
def definitionsOf (said : List Statement) (header : Header) : List (String × String) :=
  (said.filter (·.header = header)).filterMap Statement.definition

/-- The section of a header: all that is defined under it. -/
def sectionOf (said : List Statement) (header : Header) : Section :=
  { name := header.name, properties := Table.ofList (definitionsOf said header) }

/-- The sections that some statements make, in order of appearance. -/
def sectionsOf (said : List Statement) : List (Header × Section) :=
  (headersOf said).eraseDups.map fun header => (header, sectionOf said header)

section

variable {said : List Statement}

theorem headersOf_append (said more : List Statement) :
    headersOf (said ++ more) = headersOf said ++ headersOf more := List.map_append

theorem definitionsOf_append (said more : List Statement) (header : Header) :
    definitionsOf (said ++ more) header
      = definitionsOf said header ++ definitionsOf more header := by
  rw [definitionsOf, List.filter_append, List.filterMap_append]
  rfl

theorem definitionsOf_of_not_mem (h : header ∉ headersOf said) :
    definitionsOf said header = [] := by
  have hnone : said.filter (·.header = header) = [] := by
    apply List.filter_eq_nil_iff.mpr
    intro statement hstatement
    rw [decide_eq_true_eq]
    rintro rfl
    exact h (List.mem_map_of_mem hstatement)
  rw [definitionsOf, hnone, List.filterMap_nil]

theorem lookup_sectionsOf (h : header ∈ headersOf said) :
    (sectionsOf said).lookup header = some (sectionOf said header) :=
  lookup_map_pair (sectionOf said) (List.mem_eraseDups.mpr h)

theorem lookup_sectionsOf_of_not_mem (h : header ∉ headersOf said) :
    (sectionsOf said).lookup header = none :=
  lookup_map_pair_of_not_mem (sectionOf said) fun hmem => h (List.mem_eraseDups.mp hmem)

/-- Whatever is found under a header is its section. -/
theorem eq_sectionOf {s : Section} (h : (sectionsOf said).lookup header = some s) :
    s = sectionOf said header := by
  by_cases hmem : header ∈ headersOf said
  · rw [lookup_sectionsOf hmem] at h
    exact (Option.some.inj h).symm
  · rw [lookup_sectionsOf_of_not_mem hmem] at h
    cases h

namespace Grouping

variable {state : Grouping}

/-- One more header: its section is there from now on. -/
theorem sections_enter_header (h : state.sections = sectionsOf said) (header : Header) :
    (state.enter header).sections = sectionsOf (said ++ [⟨header, none⟩]) := by
  have hsame : sectionOf (said ++ [⟨header, none⟩]) = sectionOf said := by
    funext other
    have hnone : definitionsOf [⟨header, none⟩] other = [] := by
      by_cases hother : header = other <;> simp [definitionsOf, hother]
    rw [sectionOf, definitionsOf_append, hnone, List.append_nil]
    rfl
  have hheaders : headersOf (said ++ [⟨header, none⟩]) = headersOf said ++ [header] :=
    headersOf_append said [⟨header, none⟩]
  rw [sectionsOf, hheaders, hsame]
  apply sections_enter_of h
  intro hnew
  rw [sectionOf, definitionsOf_of_not_mem hnew]
  rfl

/-- One more definition: it is written to the section of its header. -/
theorem sections_define_key (h : state.sections = sectionsOf said)
    (hmem : header ∈ headersOf said) (key value : String) :
    (state.define header key value).sections
      = sectionsOf (said ++ [⟨header, some (key, value)⟩]) := by
  have hsection : ∀ other, (if other = header then (sectionOf said other).set key value
      else sectionOf said other) = sectionOf (said ++ [⟨header, some (key, value)⟩]) other := by
    intro other
    rw [sectionOf, sectionOf, definitionsOf_append]
    by_cases hother : header = other
    · subst hother
      have hone : definitionsOf [⟨header, some (key, value)⟩] header = [(key, value)] := by
        simp [definitionsOf]
      rw [if_pos rfl, hone, Section.set, Table.ofList_concat]
    · have hnone : definitionsOf [⟨header, some (key, value)⟩] other = [] := by
        simp [definitionsOf, hother]
      rw [if_neg (Ne.symm hother), hnone, List.append_nil]
  have hheaders : (headersOf (said ++ [⟨header, some (key, value)⟩])).eraseDups
      = (headersOf said).eraseDups := by
    rw [headersOf_append]
    exact eraseDups_concat_of_mem hmem
  rw [define, h, sectionsOf, sectionsOf, hheaders, List.map_map]
  exact List.map_congr_left fun other _ => congrArg (other, ·) (hsection other)

/-! ### Grouping -/

/-- What has been grouped is what has been said, and properties go where the last header says. -/
structure Holds (kind : FileKind) (state : Grouping) (said : List Statement)
    (current : Option Header) : Prop where
  sections : state.sections = sectionsOf said
  place : ∀ header, state.place = .under header ↔ current = some header
  there : ∀ header, current = some header → header ∈ headersOf said
  headings : ∀ header ∈ headersOf said, ∃ heading : Heading kind, header = heading.header

theorem holds_nil : Holds kind {} [] none where
  sections := rfl
  place header := by simp
  there header h := by cases h
  headings header h := by cases h

theorem Holds.enter {current : Option Header} (h : Holds kind state said current)
    (heading : Heading kind) :
    Holds kind (state.enter heading.header) (said ++ [⟨heading.header, none⟩])
      (some heading.header) where
  sections := sections_enter_header h.sections heading.header
  place other := by
    have hplace : (state.enter heading.header).place = .under heading.header := by
      unfold Grouping.enter
      split <;> rfl
    rw [hplace]
    simp
  there other hother := by
    cases hother
    simp [headersOf]
  headings other hother := by
    rw [headersOf_append, List.mem_append] at hother
    rcases hother with hother | hother
    · exact h.headings other hother
    · exact ⟨heading, List.mem_singleton.mp hother⟩

theorem Holds.define {header : Header} (h : Holds kind state said (some header))
    (key value : String) :
    Holds kind (state.define header key value) (said ++ [⟨header, some (key, value)⟩])
      (some header) where
  sections := sections_define_key h.sections (h.there header rfl) key value
  place := h.place
  there other hother := by
    rw [headersOf_append]
    exact List.mem_append_left _ (h.there other hother)
  headings other hother := by
    rw [headersOf_append, List.mem_append] at hother
    rcases hother with hother | hother
    · exact h.headings other hother
    · rw [List.mem_singleton.mp hother]
      exact h.headings header (h.there header rfl)

/-- A property is defined under the header, unless its key is passed over. -/
theorem Holds.property {header : Header} (h : Holds kind state said (some header)) (n : Nat)
    (raw : List Char) (folded : List (List Char)) :
    (state.property header ⟨n, raw, folded.map Text.trim⟩).Yields fun state' =>
      Holds kind state' (said ++ ((definition? raw folded).map fun definition =>
        (⟨header, some definition⟩ : Statement)).toList) (some header) := by
  have hread : propertyOfLine ⟨n, raw, folded.map Text.trim⟩ = ((ownProperty raw).1,
      String.ofList (List.intercalate ['\n'] ((ownProperty raw).2 :: folded.map Text.trim))) := rfl
  unfold Grouping.property definition?
  rw [hread]
  dsimp only
  rcases isIdentifier (ownProperty raw).1 with - | -
  · refine (yields_true _).bind fun _ _ => yields_pure ?_
    simpa using h
  · have hdefined := h.define (String.ofList (ownProperty raw).1)
      (String.ofList (List.intercalate ['\n'] ((ownProperty raw).2 :: folded.map Text.trim)))
    rw [if_neg (by simp)]
    split
    · exact (yields_true _).bind fun _ _ => yields_pure hdefined
    · exact yields_pure hdefined

/-- **One more logical line says one more thing, or nothing.** -/
theorem Holds.step {current : Option Header} (h : Holds kind state said current) (n : Nat)
    (hopens : opens raw = true) (below : List (List Char)) :
    (step kind state ⟨n, raw, (foldedBelow below).map Text.trim⟩).Yields fun state' =>
      Holds kind state' (said ++ (statement? kind current raw below).toList)
        (headerBelow kind current raw) := by
  unfold Grouping.step statement? headerBelow
  by_cases hheader : isHeader raw = true
  · simp only [if_pos hheader]
    refine yields_readHeader.bind ?_
    rintro _ rfl
    dsimp only
    rcases hread : headerIn? kind raw with - | header
    · refine yields_pure ⟨?_, by simp, by simp, ?_⟩
      · rw [Option.map_none, Option.toList_none, List.append_nil]
        exact h.sections
      · rw [Option.map_none, Option.toList_none, List.append_nil]
        exact h.headings
    · obtain ⟨heading, rfl⟩ := exists_heading hread
      exact yields_pure (h.enter heading)
  · have hplain : isPlain raw = true := by simpa [opens, hheader] using hopens
    simp only [if_neg hheader, if_pos hplain]
    split
    · exact yields_fail _
    · split
      · exact yields_fail _
      · next hplace =>
        have hnone : current = none := by
          rcases current with - | header
          · rfl
          · rw [(h.place header).mpr rfl] at hplace
            cases hplace
        subst hnone
        exact yields_pure (by simpa using h)
      · next header hplace =>
        obtain rfl := (h.place header).mp hplace
        exact h.property n raw (foldedBelow below)

/-- **All lines together say what has been grouped.** -/
theorem Holds.foldlM {current : Option Header} (h : Holds kind state said current) (n : Nat)
    (lines : List (List Char)) :
    ((logicalFrom n lines).foldlM (Grouping.step kind) state).Yields fun state' =>
      Holds kind state' (said ++ statements kind current lines)
        (lines.foldl (headerBelow kind) current) := by
  -- the induction is on the physical lines; those that open nothing say nothing
  induction lines generalizing state said current n with
  | nil =>
    refine yields_pure ?_
    rw [statements, List.append_nil]
    exact h
  | cons raw lines ih =>
    rw [logicalFrom, List.foldl_cons, statements, ← List.append_assoc]
    split
    · next hopens =>
      rw [List.foldlM_cons]
      exact (h.step n hopens lines).bind fun state' h' => ih h' (n + 1)
    · next hopens =>
      obtain ⟨hheader, hplain⟩ := opens_eq_false_iff.mp (Bool.eq_false_iff.mpr hopens)
      have hnothing : statement? kind current raw lines = none := by
        simp [statement?, hheader, hplain]
      have hsame : headerBelow kind current raw = current := by simp [headerBelow, hheader]
      rw [hnothing, hsame, Option.toList_none, List.append_nil]
      exact ih h (n + 1)

end Grouping

end

/-! ### Files -/

/-- What the lines of a text say. -/
def saidIn (kind : FileKind) (text : String) : List Statement :=
  statements kind none (Text.lines text.toList)

/-- **A file that was read holds what its lines say.** -/
theorem filed_of_parse {text : String} {file : File} (h : (File.parse kind text).1 = .ok file) :
    Filed file (sectionsOf (saidIn kind text)) := by
  have hread : (File.read kind text).Yields fun file =>
      Filed file (sectionsOf (saidIn kind text)) := by
    refine (yields_ofExcept _).bind fun logical hlogical => ?_
    rw [eq_of_foldLines hlogical]
    refine (Grouping.holds_nil.foldlM 1 _).bind fun grouping hgrouping => ?_
    have hkeys : (sectionsOf (saidIn kind text)).map Prod.fst
        = (headersOf (saidIn kind text)).eraseDups := by
      rw [sectionsOf, List.map_map]
      exact List.map_id _
    have hheadings : ∀ entry ∈ sectionsOf (saidIn kind text),
        ∃ heading : Heading kind, entry.1 = heading.header := by
      intro entry hentry
      have hheader : entry.1 ∈ (headersOf (saidIn kind text)).eraseDups := by
        rw [← hkeys]
        exact List.mem_map_of_mem hentry
      exact hgrouping.headings entry.1 (List.mem_eraseDups.mp hheader)
    have hdistinct : ((sectionsOf (saidIn kind text)).map Prod.fst).Nodup := by
      rw [hkeys]
      exact nodup_eraseDups _
    rw [hgrouping.sections]
    exact (ensures_foldlM_add .empty hheadings hdistinct).yields
  exact hread [] file _ (Prod.ext h rfl)

end AwsSigning.SharedConfig
