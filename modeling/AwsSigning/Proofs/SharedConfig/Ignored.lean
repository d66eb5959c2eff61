/-
AwsSigning/Proofs/SharedConfig/Ignored.lean

Sections that are ignored.

A header is ignored for one of a few reasons (`IsIgnored`), and with it all that
stands below it up to the next header.  To leave such lines out changes nothing
(`parse_of_ignored`).

A header is where a file can be cut.  What is below it says the same and is as
free of faults whatever stands above (`statements_of_headed`,
`foldingFault?_of_headed`, `groupingFault?_of_headed`).  A section that is ignored
lies between two such places, and in it nothing is said (`statements_of_ignored`).
-/
import AwsSigning.Proofs.SharedConfig.Outcome
import AwsSigning.Proofs.Text.Slot

namespace AwsSigning.SharedConfig

variable {kind : FileKind} {raw inner : List Char} {above below rest : List (List Char)}

/-! ### Headers that are ignored -/

/-- What stands between the brackets of a header, trimmed. -/
def IsInner (inner raw : List Char) : Prop :=
  ∃ before after, raw = '[' :: before ++ ']' :: after ∧ ']' ∉ after ∧ Text.trim before = inner

/-- Why the section of a header is ignored. -/
inductive IsIgnored : FileKind → List Char → Prop
  /-- The first of two words names no kind. -/
  | unknown {raw inner word name : List Char} (h : IsInner inner raw)
      (hwords : Text.words inner = [word, name])
      (hword : ∀ known : SectionKind, word ≠ known.word) : IsIgnored .config raw
  /-- There is no word for a kind, and the name is not that of the default profile. -/
  | unprefixed {raw inner : List Char} (h : IsInner inner raw)
      (hlength : (Text.words inner).length ≠ 2)
      (hdefault : Text.words inner ≠ ["default".toList]) : IsIgnored .config raw
  /-- The name is no identifier. -/
  | misnamed {raw inner word name : List Char} (h : IsInner inner raw)
      (hwords : Text.words inner = [word, name]) (hname : isIdentifier name = false) :
      IsIgnored .config raw
  /-- In a credentials file all that stands between the brackets is the name. -/
  | bare {raw inner : List Char} (h : IsInner inner raw) (hname : isIdentifier inner = false) :
      IsIgnored .credentials raw

theorem exists_isInner_iff : (∃ inner, IsInner inner raw) ↔ isHeader raw = true ∧ ']' ∈ raw := by
  constructor
  · rintro ⟨_, before, after, rfl, -, -⟩
    exact ⟨rfl, by simp⟩
  · rintro ⟨hheader, hclosed⟩
    rcases hsplit : Text.splitLast? ']' raw with - | ⟨front, after⟩
    · exact absurd hclosed (Text.splitLast?_eq_none_iff.mp hsplit)
    · obtain ⟨rfl, hafter⟩ := Text.splitLast?_eq_some_iff.mp hsplit
      rcases front with - | ⟨c, before⟩
      · cases hheader
      · have hc : c = '[' := by simpa [isHeader] using hheader
        subst hc
        exact ⟨_, before, after, rfl, hafter, rfl⟩

theorem headerIn?_of_isInner (h : IsInner inner raw) (kind : FileKind) :
    headerIn? kind raw
      = (headerOf? kind inner).filter fun header => isIdentifier header.name.toList := by
  obtain ⟨before, after, rfl, hafter, rfl⟩ := h
  rw [headerIn?, Text.splitLast?_append hafter]
  rfl

theorem ofWord?_eq_none_iff {word : List Char} :
    SectionKind.ofWord? word = none ↔ ∀ known : SectionKind, word ≠ known.word := by
  constructor
  · rintro hnone known rfl
    rw [ofWord?_word] at hnone
    cases hnone
  · intro hne
    have hprofile : word ≠ "profile".toList := hne .profile
    have hservices : word ≠ "services".toList := hne .services
    have hsession : word ≠ "sso-session".toList := hne .ssoSession
    rw [SectionKind.ofWord?, if_neg hprofile, if_neg hservices, if_neg hsession]

/-- **These are all the reasons**: a header is about something, or it is ignored. -/
theorem isIgnored_iff :
    IsIgnored kind raw ↔ isHeader raw = true ∧ ']' ∈ raw ∧ headerIn? kind raw = none := by
  rw [← and_assoc, ← exists_isInner_iff]
  constructor
  · rintro (⟨h, hwords, hword⟩ | ⟨h, hlength, hdefault⟩ | ⟨h, hwords, hname⟩ | ⟨h, hname⟩)
    · refine ⟨⟨_, h⟩, ?_⟩
      rw [headerIn?_of_isInner h, headerOf?, hwords, headerOfWords?,
        ofWord?_eq_none_iff.mpr hword]
      rfl
    · refine ⟨⟨_, h⟩, ?_⟩
      rw [headerIn?_of_isInner h, headerOf?]
      generalize Text.words _ = words at hlength hdefault
      rcases words with - | ⟨word, - | ⟨name, - | ⟨other, more⟩⟩⟩
      · rfl
      · rw [headerOfWords?, if_neg fun hname => hdefault (congrArg ([·]) hname)]
        rfl
      · exact absurd rfl hlength
      · rfl
    · refine ⟨⟨_, h⟩, ?_⟩
      rw [headerIn?_of_isInner h, headerOf?, hwords, headerOfWords?]
      rcases SectionKind.ofWord? _ with - | known
      · rfl
      · simp [Option.filter, hname]
    · refine ⟨⟨_, h⟩, ?_⟩
      rw [headerIn?_of_isInner h, headerOf?]
      simp [Option.filter, hname]
  · rintro ⟨⟨inner, h⟩, hnone⟩
    rw [headerIn?_of_isInner h] at hnone
    -- the reason is found by the number of words
    cases kind with
    | credentials =>
      apply IsIgnored.bare h
      simpa [headerOf?, Option.filter] using hnone
    | config =>
      rw [headerOf?] at hnone
      rcases hwords : Text.words inner with - | ⟨word, - | ⟨name, - | ⟨other, more⟩⟩⟩
      · exact .unprefixed h (by rw [hwords]; simp) (by rw [hwords]; simp)
      · refine .unprefixed h (by rw [hwords]; simp) ?_
        intro hdefault
        rw [hdefault] at hnone
        exact absurd hnone (by decide)
      · rw [hwords, headerOfWords?] at hnone
        rcases hword : SectionKind.ofWord? word with - | known
        · exact .unknown h hwords (ofWord?_eq_none_iff.mp hword)
        · rw [hword] at hnone
          apply IsIgnored.misnamed h hwords
          simpa [Option.filter] using hnone
      · exact .unprefixed h (by rw [hwords]; simp) (by rw [hwords]; simp)

/-! ### Cutting a file at a header -/

/-- The first line, if there is one, is a header. -/
def Headed (lines : List (List Char)) : Prop := ∀ line ∈ lines.head?, isHeader line = true

theorem foldingFault?_append (view : View) (n : Nat) (above below : List (List Char)) :
    foldingFault? view n (above ++ below)
      = (foldingFault? view n above).or
        (foldingFault? (above.foldl View.after view) (n + above.length) below) := by
  induction above generalizing view n with
  | nil => rfl
  | cons raw above ih =>
    rw [List.cons_append, foldingFault?, foldingFault?, ih, Option.or_assoc, List.foldl_cons,
      List.length_cons, Nat.add_right_comm, Nat.add_assoc]

/-- Whether a line is at fault has nothing to do with its number. -/
theorem foldingFault?_renumber {view : View} {n : Nat} (m : Nat)
    (h : foldingFault? view n below = none) : foldingFault? view m below = none := by
  induction below generalizing view n m with
  | nil => rfl
  | cons raw below ih =>
    rw [foldingFault?, Option.or_eq_none_iff, Option.map_eq_none_iff] at h ⊢
    exact ⟨h.1, ih (m + 1) h.2⟩

theorem groupingFault?_renumber {placed : Bool} {n : Nat} (m : Nat)
    (h : groupingFault? placed n below = none) : groupingFault? placed m below = none := by
  induction below generalizing placed n m with
  | nil => rfl
  | cons raw below ih =>
    rw [groupingFault?, Option.or_eq_none_iff, Option.map_eq_none_iff] at h ⊢
    exact ⟨h.1, ih (m + 1) h.2⟩

section Headed

variable (hbelow : Headed below)
include hbelow

theorem Headed.opens : ∀ line ∈ below.head?, SharedConfig.opens line = true := by
  intro line hline
  rw [SharedConfig.opens, hbelow line hline, Bool.true_or]

/-- For the first pass it does not matter what stands above a header. -/
theorem foldingFault?_of_headed {view : View} {n : Nat} (h : foldingFault? view n below = none)
    (view' : View) (m : Nat) : foldingFault? view' m below = none := by
  rcases below with - | ⟨header, below⟩
  · rfl
  · have hheader : isHeader header = true := hbelow header rfl
    have hafter : ∀ view : View, view.after header = { header := true, group := [header] } :=
      fun view => if_pos hheader
    have hfault : view'.fault? header = none := by
      have hcontinuation : isContinuation header = false := (not_isSkipped_of_isHeader hheader).2
      rw [View.fault?, isFolded, hcontinuation, Bool.and_false]
      rfl
    rw [foldingFault?, Option.or_eq_none_iff, hafter] at h
    rw [foldingFault?, hfault, hafter]
    exact foldingFault?_renumber (m + 1) h.2

/-- Nor for the second one. -/
theorem groupingFault?_of_headed {placed : Bool} {n : Nat}
    (h : groupingFault? placed n below = none) (placed' : Bool) (m : Nat) :
    groupingFault? placed' m below = none := by
  rcases below with - | ⟨header, below⟩
  · rfl
  · have hheader : isHeader header = true := hbelow header rfl
    have hentry : ∀ placed : Bool, entryFault? placed header (foldedBelow below)
        = closingFault? header := fun placed => if_pos hheader
    rw [groupingFault?, hentry, hheader, Bool.or_true, Option.or_eq_none_iff,
      Option.map_eq_none_iff] at h
    rw [groupingFault?, hentry, hheader, Bool.or_true, Option.or_eq_none_iff,
      Option.map_eq_none_iff]
    exact ⟨h.1, groupingFault?_renumber (m + 1) h.2⟩

/-- What is said below a header does not depend on what stands above. -/
theorem statements_of_headed (current current' : Option Header) :
    statements kind current below = statements kind current' below := by
  rcases below with - | ⟨header, below⟩
  · rfl
  · have hheader : isHeader header = true := hbelow header rfl
    have hsaid : ∀ current, statement? kind current header below
        = (headerIn? kind header).map fun header => { header } := fun current => if_pos hheader
    have hthere : ∀ current, headerBelow kind current header = headerIn? kind header :=
      fun current => if_pos hheader
    rw [statements, statements, hsaid, hsaid, hthere, hthere]

/-- The second pass over two parts of a file. -/
theorem groupingFault?_append_headed (placed : Bool) (n : Nat) (above : List (List Char)) :
    groupingFault? placed n (above ++ below)
      = (groupingFault? placed n above).or
        (groupingFault? (placed || above.any isHeader) (n + above.length) below) := by
  induction above generalizing placed n with
  | nil =>
    rw [List.any_nil, Bool.or_false]
    rfl
  | cons raw above ih =>
    rw [List.cons_append, groupingFault?, groupingFault?,
      foldedBelow_append_of_opens hbelow.opens, ih, Option.or_assoc, List.any_cons, Bool.or_assoc,
      List.length_cons, Nat.add_right_comm, Nat.add_assoc]

end Headed

/-! ### Leaving a section out -/

/-- Without a header nothing is said. -/
theorem statements_of_unheaded (h : ∀ line ∈ rest, isHeader line = false) :
    statements kind none rest = [] := by
  induction rest with
  | nil => rfl
  | cons raw rest ih =>
    rw [List.forall_mem_cons] at h
    have hnothing : statement? kind none raw rest = none := by simp [statement?, h.1]
    have hthere : headerBelow kind none raw = none := by simp [headerBelow, h.1]
    rw [statements, hnothing, hthere, ih h.2]
    rfl

/-- **In a section that is ignored nothing is said.** -/
theorem statements_of_ignored (hraw : IsIgnored kind raw)
    (hrest : ∀ line ∈ rest, isHeader line = false) (current : Option Header) :
    statements kind current (raw :: rest) = [] := by
  obtain ⟨hheader, -, hnone⟩ := isIgnored_iff.mp hraw
  rw [statements, statement?, headerBelow, if_pos hheader, if_pos hheader, hnone, Option.map_none,
    statements_of_unheaded hrest]
  rfl

/-- To leave an ignored section out changes nothing. -/
theorem outcomeOf_of_ignored (hraw : IsIgnored kind raw)
    (hrest : ∀ line ∈ rest, isHeader line = false) (hbelow : Headed below) {file : File}
    (h : outcomeOf kind (above ++ (raw :: rest ++ below)) = .ok file) :
    outcomeOf kind (above ++ below) = .ok file := by
  have hheaded : Headed (raw :: rest ++ below) := by
    rintro _ ⟨⟩
    exact (isIgnored_iff.mp hraw).1
  rw [outcomeOf_eq_ok_iff] at h ⊢
  obtain ⟨hfolding, hgrouping, hfile⟩ := h
  -- both passes and the statements are cut in three, and the part in the middle is left out
  rw [foldingFault?_append, foldingFault?_append, Option.or_eq_none_iff,
    Option.or_eq_none_iff] at hfolding
  rw [groupingFault?_append_headed hheaded, groupingFault?_append_headed hbelow,
    Option.or_eq_none_iff, Option.or_eq_none_iff] at hgrouping
  rw [statements_append_of_opens hheaded.opens, statements_append_of_opens hbelow.opens,
    statements_of_ignored hraw hrest, List.nil_append] at hfile
  refine ⟨?_, ?_, ?_⟩
  · rw [foldingFault?_append, hfolding.1, Option.none_or]
    exact foldingFault?_of_headed hbelow hfolding.2.2 _ _
  · rw [groupingFault?_append_headed hbelow, hgrouping.1, Option.none_or]
    exact groupingFault?_of_headed hbelow hgrouping.2.2 _ _
  · rw [statements_append_of_opens hbelow.opens, ← hfile]
    exact congrArg (fun said => fileOf kind (sectionsOf (_ ++ said)))
      (statements_of_headed hbelow _ _)

/-! ### Texts -/

/-- A text of whole lines. -/
def IsWhole (s : List Char) : Prop := s = [] ∨ ∃ above, s = above ++ ['\n']

theorem IsWhole.lines_append {s : List Char} (h : IsWhole s) (t : List Char) :
    Text.lines (s ++ t) = Text.lines s ++ Text.lines t :=
  Text.Slot.lines_before ⟨s, [], h, .inl rfl⟩ t

/-- **An ignored section has no effect**: a file that is read is read as the same one without it,
and nothing that stands in it comes to the section before or after it. -/
theorem parse_of_ignored {kind : FileKind} {a s b : String} (ha : IsWhole a.toList)
    (hs : IsWhole s.toList ∨ b = "") {raw : List Char} {rest : List (List Char)}
    (hlines : Text.lines s.toList = raw :: rest) (hraw : IsIgnored kind raw)
    (hrest : ∀ line ∈ rest, isHeader line = false) (hb : Headed (Text.lines b.toList)) {file : File}
    (h : (File.parse kind (a ++ s ++ b)).1 = .ok file) :
    (File.parse kind (a ++ b)).1 = .ok file := by
  have hsb : Text.lines (s.toList ++ b.toList) = raw :: rest ++ Text.lines b.toList := by
    rcases hs with hwhole | rfl
    · rw [hwhole.lines_append, hlines]
    · rw [String.toList_empty, List.append_nil, hlines]
      exact (List.append_nil _).symm
  rw [parse_eq, String.toList_append, String.toList_append, List.append_assoc, ha.lines_append,
    hsb] at h
  rw [parse_eq, String.toList_append, ha.lines_append]
  exact outcomeOf_of_ignored hraw hrest hb h

/-- The ignored section stands between a block and more of the section that the block is in. -/
theorem parse_of_ignored_tools :
    (File.parse .config ("[default]\ns3 =\n  a = 1\n" ++ "[tools extra]\ns3 = 2\n  b\n"
        ++ "[default]\nregion = us-east-1\n")).1
        = .ok { profiles :=
          [("default", ⟨"default", [("s3", "\na = 1"), ("region", "us-east-1")]⟩)] } ∧
      (File.parse .config ("[default]\ns3 =\n  a = 1\n" ++ "[default]\nregion = us-east-1\n")).1
        = .ok { profiles :=
          [("default", ⟨"default", [("s3", "\na = 1"), ("region", "us-east-1")]⟩)] } := by
  have hparse : (File.parse .config ("[default]\ns3 =\n  a = 1\n" ++ "[tools extra]\ns3 = 2\n  b\n"
      ++ "[default]\nregion = us-east-1\n")).1 = .ok { profiles :=
        [("default", ⟨"default", [("s3", "\na = 1"), ("region", "us-east-1")]⟩)] } := by
    rw [parse_eq]
    rfl
  have ha : IsWhole "[default]\ns3 =\n  a = 1\n".toList :=
    .inr ⟨"[default]\ns3 =\n  a = 1".toList, rfl⟩
  have hs : IsWhole "[tools extra]\ns3 = 2\n  b\n".toList :=
    .inr ⟨"[tools extra]\ns3 = 2\n  b".toList, rfl⟩
  have hlines : Text.lines "[tools extra]\ns3 = 2\n  b\n".toList
      = "[tools extra]".toList :: ["s3 = 2".toList, "  b".toList] := by decide +kernel
  have hraw : IsIgnored .config "[tools extra]".toList := by
    have hinner : IsInner "tools extra".toList "[tools extra]".toList :=
      ⟨"tools extra".toList, [], rfl, by simp, by decide⟩
    have hwords : Text.words "tools extra".toList = ["tools".toList, "extra".toList] := by decide
    refine .unknown hinner hwords fun known => ?_
    cases known <;> decide
  have hb : Headed (Text.lines "[default]\nregion = us-east-1\n".toList) := by
    rintro _ ⟨⟩
    rfl
  exact ⟨hparse, parse_of_ignored ha (.inl hs) hlines hraw (by decide) hb hparse⟩

end AwsSigning.SharedConfig
