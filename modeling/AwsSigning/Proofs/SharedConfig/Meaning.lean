/-
AwsSigning/Proofs/SharedConfig/Meaning.lean

The parser means what the file says.

A text that spells a document is parsed, and the file that comes out means
what the document says (`parse_of_spells`).

What has been grouped can be told from the entries so far, without looking
back at the way (`sectionsOf`): there is a section for each header, in order
of appearance, with all that is defined under it.  One more heading and one
more property keep that up.  In the end the sections are put into the file one
by one.  What is found there is told from the sections put so far (`Filed`),
and a section of `[default]` that comes too late changes nothing about it.
-/
import AwsSigning.Proofs.SharedConfig.Reading
import AwsSigning.Proofs.Table

namespace AwsSigning.SharedConfig

open Operation

variable {kind : FileKind} {doc : Document kind}

/-! ### Sections of a document -/

namespace Document

/-- The section of a header: all that is defined under it. -/
def sectionFor (doc : Document kind) (header : Header) : Section :=
  { name := header.name, properties := Table.ofList (doc.definitions header) }

/-- The sections that the entries make, in order of appearance. -/
def sectionsOf (doc : Document kind) : List (Header × Section) :=
  doc.headers.eraseDups.map fun header => (header, doc.sectionFor header)

theorem headers_concat (doc : Document kind) (e : Entry kind) :
    headers (doc ++ [e]) = doc.headers ++ [e.heading.header] :=
  List.map_append

theorem definitions_concat (doc : Document kind) (e : Entry kind) (header : Header) :
    definitions (doc ++ [e]) header = doc.definitions header ++
      if e.heading.header = header then e.properties.map Property.definition else [] := by
  rw [definitions, List.filter_append, List.flatMap_append]
  congr 1
  by_cases h : e.heading.header = header <;> simp [h]

/-- Without an entry nothing is defined. -/
theorem definitions_of_not_mem {header : Header} (h : header ∉ doc.headers) :
    doc.definitions header = [] := by
  have hnone : doc.filter (·.heading.header = header) = [] := by
    apply List.filter_eq_nil_iff.mpr
    intro e he
    rw [decide_eq_true_eq]
    rintro rfl
    exact h (List.mem_map_of_mem he)
  rw [definitions, hnone, List.flatMap_nil]

theorem lookup_sectionsOf {header : Header} (h : header ∈ doc.headers) :
    doc.sectionsOf.lookup header = some (doc.sectionFor header) :=
  lookup_map_pair doc.sectionFor (List.mem_eraseDups.mpr h)

theorem lookup_sectionsOf_of_not_mem {header : Header} (h : header ∉ doc.headers) :
    doc.sectionsOf.lookup header = none :=
  lookup_map_pair_of_not_mem doc.sectionFor fun hmem => h (List.mem_eraseDups.mp hmem)

end Document

namespace Grouping

variable {state : Grouping}

/-- A header is entered behind those that are there, unless it is one of them. -/
theorem sections_enter_of {headers : List Header} {header : Header} {sectionAt : Header → Section}
    (h : state.sections = headers.eraseDups.map fun header => (header, sectionAt header))
    (hnew : header ∉ headers → sectionAt header = { name := header.name }) :
    (state.enter header).sections
      = (headers ++ [header]).eraseDups.map fun header => (header, sectionAt header) := by
  rw [enter, section?, h]
  by_cases hmem : header ∈ headers
  · rw [lookup_map_pair sectionAt (List.mem_eraseDups.mpr hmem), eraseDups_concat_of_mem hmem]
  · have habsent : header ∉ headers.eraseDups := fun hdup => hmem (List.mem_eraseDups.mp hdup)
    rw [lookup_map_pair_of_not_mem sectionAt habsent, eraseDups_concat_of_not_mem hmem,
      List.map_append, List.map_singleton, hnew hmem]

/-- One more heading: its section is there from now on. -/
theorem sections_enter (h : state.sections = doc.sectionsOf) (heading : Heading kind) :
    (state.enter heading.header).sections
      = Document.sectionsOf (doc ++ [⟨heading, []⟩]) := by
  have hsame : Document.sectionFor (doc ++ [⟨heading, []⟩]) = doc.sectionFor := by
    funext header
    simp [Document.sectionFor, Document.definitions_concat]
  rw [Document.sectionsOf, Document.headers_concat, hsame]
  apply sections_enter_of h
  intro hnew
  rw [Document.sectionFor, Document.definitions_of_not_mem hnew]
  rfl

/-- One more property: it is written to the section of the last heading. -/
theorem sections_define {heading : Heading kind} {ps : List Property}
    (h : state.sections = Document.sectionsOf (doc ++ [⟨heading, ps⟩])) (p : Property) :
    (state.define heading.header p.definition.1 p.definition.2).sections
      = Document.sectionsOf (doc ++ [⟨heading, ps ++ [p]⟩]) := by
  have hsection : ∀ header, (if header = heading.header
      then (Document.sectionFor (doc ++ [⟨heading, ps⟩]) header).set p.definition.1 p.definition.2
      else Document.sectionFor (doc ++ [⟨heading, ps⟩]) header)
      = Document.sectionFor (doc ++ [⟨heading, ps ++ [p]⟩]) header := by
    intro header
    unfold Document.sectionFor
    by_cases hheader : heading.header = header
    · rw [if_pos hheader.symm, Section.set, Document.definitions_concat, if_pos hheader,
        Document.definitions_concat, if_pos hheader, List.map_append, List.map_singleton,
        ← List.append_assoc, Table.ofList_concat]
    · rw [if_neg (Ne.symm hheader), Document.definitions_concat, if_neg hheader,
        Document.definitions_concat, if_neg hheader]
  rw [define, h, Document.sectionsOf, Document.sectionsOf, Document.headers_concat,
    Document.headers_concat, List.map_map]
  exact List.map_congr_left fun header _ => congrArg (header, ·) (hsection header)

theorem sections_foldl_define {heading : Heading kind} {ps : List Property}
    (h : state.sections = Document.sectionsOf (doc ++ [⟨heading, ps⟩])) (more : List Property) :
    (more.foldl (fun state p => state.define heading.header p.definition.1 p.definition.2)
      state).sections = Document.sectionsOf (doc ++ [⟨heading, ps ++ more⟩]) := by
  induction more generalizing state ps with
  | nil =>
    rw [List.append_nil]
    exact h
  | cons p more ih =>
    rw [List.foldl_cons, ih (sections_define h p), List.append_assoc, List.singleton_append]

theorem sections_take (h : state.sections = doc.sectionsOf) (e : Entry kind) :
    (state.take e).sections = Document.sectionsOf (doc ++ [e]) :=
  sections_foldl_define (sections_enter h e.heading) e.properties

/-- **The sections of all entries**, when all have been taken in. -/
theorem sections_foldl_take {front : Document kind} (h : state.sections = front.sectionsOf)
    (doc : Document kind) :
    (doc.foldl take state).sections = Document.sectionsOf (front ++ doc) := by
  induction doc generalizing state front with
  | nil =>
    rw [List.append_nil]
    exact h
  | cons e doc ih => rw [List.foldl_cons, ih (sections_take h e), List.append_assoc,
      List.singleton_append]

end Grouping

/-! ### Sections of a file -/

namespace File

variable {file : File} {sectionKind : SectionKind}

theorem ofKind_put (file : File) (sectionKind : SectionKind) (name : String) (s : Section) :
    (file.put sectionKind name s).ofKind sectionKind = (file.ofKind sectionKind).set name s := by
  cases sectionKind <;> rfl

theorem ofKind_put_of_ne {other : SectionKind} (h : other ≠ sectionKind) (name : String)
    (s : Section) : (file.put sectionKind name s).ofKind other = file.ofKind other := by
  cases sectionKind <;> cases other <;> first | rfl | exact absurd rfl h

end File

/-- The file holds, under each kind and name, the section that counts among those that were put. -/
structure Filed (file : File) (sections : List (Header × Section)) : Prop where
  distinct : ∀ sectionKind, ((file.ofKind sectionKind).map Prod.fst).Nodup
  found : ∀ sectionKind name, (file.ofKind sectionKind).get? name
    = (sections.lookup ⟨sectionKind, name, true⟩).or (sections.lookup ⟨sectionKind, name, false⟩)

namespace Filed

variable {file : File} {sections : List (Header × Section)} {header : Header} {s : Section}

theorem empty : Filed {} [] where
  distinct sectionKind := by cases sectionKind <;> exact List.nodup_nil
  found sectionKind name := by cases sectionKind <;> rfl

theorem lookup_concat_self (hnew : sections.lookup header = none) :
    (sections ++ [(header, s)]).lookup header = some s := by
  simp [List.lookup_append, hnew]

theorem lookup_concat_of_ne {other : Header} (h : other ≠ header) :
    (sections ++ [(header, s)]).lookup other = sections.lookup other := by
  simp [List.lookup_append, List.lookup_cons, beq_eq_false_iff_ne.mpr h]

/-- A section is put, unless another one of its name would count in its place. -/
theorem put (h : Filed file sections) (hnew : sections.lookup header = none)
    (hcounts : header.prefixed = false →
      sections.lookup ⟨header.kind, header.name, true⟩ = none) :
    Filed (file.put header.kind header.name s) (sections ++ [(header, s)]) := by
  constructor
  case distinct =>
    intro sectionKind
    by_cases hkind : sectionKind = header.kind
    · subst hkind
      rw [File.ofKind_put]
      exact Table.nodup_set (h.distinct _) _ _
    · rw [File.ofKind_put_of_ne hkind]
      exact h.distinct sectionKind
  case found =>
    intro sectionKind name
    by_cases hsame : sectionKind = header.kind ∧ name = header.name
    · obtain ⟨rfl, rfl⟩ := hsame
      rw [File.ofKind_put, Table.get?_set_self]
      rcases header with ⟨sectionKind, name, - | -⟩
      · rw [lookup_concat_of_ne (by simp), hcounts rfl, lookup_concat_self hnew, Option.none_or]
      · rw [lookup_concat_self hnew, Option.some_or]
    · -- neither of the two headers of this kind and name is the one of the section
      have hother : ∀ isPrefixed, (⟨sectionKind, name, isPrefixed⟩ : Header) ≠ header := by
        rintro isPrefixed rfl
        exact hsame ⟨rfl, rfl⟩
      rw [lookup_concat_of_ne (hother true), lookup_concat_of_ne (hother false), ← h.found]
      by_cases hkind : sectionKind = header.kind
      · subst hkind
        rw [File.ofKind_put, Table.get?_set_of_ne fun hname => hsame ⟨rfl, hname⟩]
      · rw [File.ofKind_put_of_ne hkind]

/-- A section in whose place another one counts may be left out. -/
theorem skip (h : Filed file sections) (hbare : header.prefixed = false)
    (hcounts : (sections.lookup ⟨header.kind, header.name, true⟩).isSome = true) :
    Filed file (sections ++ [(header, s)]) := by
  constructor
  case distinct => exact h.distinct
  case found =>
    intro sectionKind name
    have hother : (⟨sectionKind, name, true⟩ : Header) ≠ header := by
      rintro rfl
      cases hbare
    rw [h.found, lookup_concat_of_ne hother]
    by_cases hsame : (⟨sectionKind, name, false⟩ : Header) = header
    · subst hsame
      obtain ⟨t, ht⟩ := Option.isSome_iff_exists.mp hcounts
      rw [ht, Option.some_or, Option.some_or]
    · rw [lookup_concat_of_ne hsame]

/-- **One more section is put where it counts.** -/
theorem ensures_add (h : Filed file sections) (heading : Heading kind)
    (hheadings : ∀ entry ∈ sections, ∃ other : Heading kind, entry.1 = other.header)
    (hnew : sections.lookup heading.header = none) (s : Section) :
    (File.add kind file (heading.header, s)).Ensures
      (Filed · (sections ++ [(heading.header, s)])) := by
  unfold File.add
  dsimp only
  cases heading with
  | default =>
    -- what is there under this name already can only be the section with the longer heading
    have hnone : sections.lookup ⟨.profile, "default", false⟩ = none := hnew
    have hget : (file.ofKind .profile).get? "default"
        = sections.lookup ⟨.profile, "default", true⟩ := by
      rw [h.found, hnone, Option.or_none]
    split
    · next hbare =>
      have hhas : ((file.ofKind .profile).get? "default").isSome = true := hbare.2
      rw [hget] at hhas
      exact (ensures_warn _).bind fun _ _ => ensures_pure (h.skip rfl hhas)
    · next hbare =>
      have hhas : ¬((file.ofKind .profile).get? "default").isSome = true :=
        fun hhas => hbare ⟨by decide, hhas⟩
      rw [hget, Bool.not_eq_true, Option.isSome_eq_false_iff, Option.isNone_iff_eq_none] at hhas
      exact ensures_pure (h.put hnew fun _ => hhas)
  | prefixed sectionKind name legal =>
    rw [if_neg (by simp [Heading.header])]
    exact ensures_pure (h.put hnew fun hbare => by cases hbare)
  | bare name legal =>
    rw [if_neg (by simp)]
    -- in a credentials file there is no longer heading
    have hnone : sections.lookup ⟨.profile, String.ofList name, true⟩ = none := by
      rw [List.lookup_eq_none_iff]
      intro entry hentry
      obtain ⟨other, hother⟩ := hheadings entry hentry
      cases other with
      | bare name' legal' =>
        rw [hother]
        simp [Heading.header]
    exact ensures_pure (h.put hnew fun _ => hnone)

end Filed

/-- **All sections are put where they count.** -/
theorem ensures_foldlM_add {file : File} {before sections : List (Header × Section)}
    (h : Filed file before)
    (hheadings : ∀ entry ∈ before ++ sections, ∃ heading : Heading kind, entry.1 = heading.header)
    (hdistinct : ((before ++ sections).map Prod.fst).Nodup) :
    (sections.foldlM (File.add kind) file).Ensures (Filed · (before ++ sections)) := by
  induction sections generalizing file before with
  | nil =>
    rw [List.append_nil]
    exact ensures_pure h
  | cons entry sections ih =>
    rw [List.append_cons] at hheadings hdistinct ⊢
    obtain ⟨header, s⟩ := entry
    obtain ⟨heading, rfl⟩ := hheadings (header, s) (by simp)
    have hnew : before.lookup heading.header = none := by
      rw [List.lookup_eq_none_iff]
      intro other hother
      rw [bne_iff_ne]
      intro heq
      rw [List.map_append, List.map_append, List.append_assoc, List.nodup_append] at hdistinct
      exact hdistinct.2.2 other.1 (List.mem_map_of_mem hother) heading.header (by simp) heq.symm
    have hbefore : ∀ entry ∈ before, ∃ other : Heading kind, entry.1 = other.header :=
      fun entry hentry => hheadings entry (by simp [hentry])
    rw [List.foldlM_cons]
    refine (h.ensures_add heading hbefore hnew s).bind fun file' hfile' => ?_
    exact ih hfile' hheadings hdistinct

/-! ### What the file means -/

theorem keeps_ofList (definitions : List (String × String)) :
    Keeps (Table.ofList definitions) definitions where
  keys := Table.keys_ofList definitions
  values := Table.get?_ofList definitions

/-- A file that holds the sections of a document holds what the document says. -/
theorem means_of_filed {file : File} (h : Filed file doc.sectionsOf) : Means doc file where
  distinct := h.distinct
  sections sectionKind name := by
    have hsection : ∀ {header : Header} {s : Section}, s = doc.sectionFor header →
        s.name = header.name ∧ Keeps s.properties (doc.definitions header) := by
      rintro header _ rfl
      exact ⟨rfl, keeps_ofList _⟩
    rw [Document.header?, h.found]
    by_cases hprefixed : ⟨sectionKind, name, true⟩ ∈ doc.headers
    · rw [if_pos hprefixed, Document.lookup_sectionsOf hprefixed, Option.some_or]
      exact ⟨_, rfl, hsection rfl⟩
    · rw [if_neg hprefixed, Document.lookup_sectionsOf_of_not_mem hprefixed, Option.none_or]
      by_cases hbare : ⟨sectionKind, name, false⟩ ∈ doc.headers
      · rw [if_pos hbare, Document.lookup_sectionsOf hbare]
        exact ⟨_, rfl, hsection rfl⟩
      · rw [if_neg hbare]
        exact Document.lookup_sectionsOf_of_not_mem hbare

/-- The sections of a document are put into a file that holds what the document says. -/
theorem ensures_foldlM_add_document (doc : Document kind) :
    (doc.sectionsOf.foldlM (File.add kind) {}).Ensures (Means doc) := by
  have hheadings : ∀ entry ∈ doc.sectionsOf, ∃ heading : Heading kind,
      entry.1 = heading.header := by
    intro entry hentry
    obtain ⟨header, hheader, rfl⟩ := List.mem_map.mp hentry
    obtain ⟨e, -, rfl⟩ := List.mem_map.mp (List.mem_eraseDups.mp hheader)
    exact ⟨e.heading, rfl⟩
  have hdistinct : (doc.sectionsOf.map Prod.fst).Nodup := by
    have hkeys : doc.sectionsOf.map Prod.fst = doc.headers.eraseDups := by
      rw [Document.sectionsOf, List.map_map]
      exact List.map_id _
    rw [hkeys]
    exact nodup_eraseDups _
  exact (ensures_foldlM_add .empty hheadings hdistinct).imp fun _ => means_of_filed

/-- **The parser means what the file says.**  A text that spells a document is parsed, into a file
that holds what the document says: one section to a kind and name, its keys in order of first
definition, each with its last value. -/
theorem parse_of_spells {text : String} (h : Spells text doc) :
    ∃ file, (File.parse kind text).1 = .ok file ∧ Means doc file := by
  obtain ⟨lines, hfold, hlines⟩ := exists_foldLines h
  have hread : (File.read kind text).Ensures (Means doc) := by
    refine (ensures_ofExcept (P := (· = lines)) hfold rfl).bind ?_
    rintro _ rfl
    refine (Grouping.ensures_foldlM_document hlines).bind ?_
    rintro _ rfl
    have hsections : (doc.foldl Grouping.take {}).sections = doc.sectionsOf :=
      @Grouping.sections_foldl_take kind {} [] rfl doc
    rw [hsections]
    exact ensures_foldlM_add_document doc
  obtain ⟨file, warnings, hfile, hmeans⟩ := hread []
  exact ⟨file, by rw [File.parse, hfile], hmeans⟩

/-- A region that is set twice, and settings of a service in a block. -/
def chosenRegion : Property :=
  ⟨"region".toList, "eu-west-1".toList, [], by decide, by decide, by decide, by decide, nofun⟩

def lastRegion : Property :=
  ⟨"region".toList, "us-west-2#b".toList, [], by decide, by decide, by decide, by decide, nofun⟩

def storage : Property where
  key := "s3".toList
  value := []
  continuations :=
    [⟨"  ".toList, "max = 10 # kept".toList, by decide, by decide, by decide, by decide, by decide⟩]
  identifier := by decide
  trimmed := by decide
  oneLine := by decide
  uncommented := by decide
  block _ := by decide

/-- Both headings are about the profile `default`, and one of them comes twice. -/
def settings : Document .config :=
  [⟨.prefixed .profile "default".toList (by decide), [chosenRegion, storage]⟩,
   ⟨.default, [chosenRegion]⟩,
   ⟨.prefixed .profile "default".toList (by decide), [lastRegion]⟩]

def settingsLines : List String :=
  ["# settings", "[profile default]", "region = eu-west-1", "s3 = ", "", "; a block",
   "  max = 10 # kept", "[default]", "region = eu-west-1", "\t", "[profile default]",
   "region = us-west-2#b", ""]

def settingsText : String := "\n".intercalate settingsLines

theorem spells_settingsText : Spells settingsText settings := by
  have hlaid : LaidOut (settingsLines.map String.toList) (settings.flatMap Entry.lines) :=
    .skip (by decide) (by decide) <| .line _ <| .line _ <| .line _ <|
      .skip (by decide) (by decide) <| .skip (by decide) (by decide) <| .line _ <| .line _ <|
      .line _ <| .skip (by decide) (by decide) <| .line _ <| .line _ <|
      .skip (by decide) (by decide) .done
  exact ⟨_, hlaid, String.toList_intercalate⟩

theorem parse_of_spells_settingsText :
    Spells settingsText settings ∧ ∃ file s, (File.parse .config settingsText).1 = .ok file ∧
      file.profiles.get? "default" = some s ∧ s.properties.map Prod.fst = ["region", "s3"] ∧
      s.properties.get? "region" = some "us-west-2#b" ∧
      s.properties.get? "s3" = some "\nmax = 10 # kept" := by
  obtain ⟨file, hparse, hmeans⟩ := parse_of_spells spells_settingsText
  -- the longer heading counts, although the other one comes after it
  have hheader : settings.header? .profile "default" = some ⟨.profile, "default", true⟩ := by decide
  have hsection := hmeans.sections .profile "default"
  rw [hheader] at hsection
  obtain ⟨s, hget, -, hkeeps⟩ := hsection
  refine ⟨spells_settingsText, file, s, hparse, hget, ?_, ?_, ?_⟩
  · rw [hkeeps.keys]
    decide
  · rw [hkeeps.values]
    decide
  · rw [hkeeps.values]
    decide

end AwsSigning.SharedConfig
