/-
AwsSigning/Proofs/SharedConfig/Blocks.lean

A block of sub-properties, from the lines it is written in to what is looked up
in it.

The last definition of a key under a header is told from the lines alone
(`Defines`): a line that defines the key, the header that counts there, the lines
nested under it, and nothing below that defines the key again.  Whatever else
stands in the file, that is what is found in it (`exists_get?_of_defines`).

A key without a value of its own holds the lines nested under it.  They come back
from its value as they are, as each of them was trimmed and none is empty
(`subProperties_of_block`), and the last one that sets a sub-property counts
(`subProperty?_of_block`).
-/
import AwsSigning.Proofs.SharedConfig.Contents

namespace AwsSigning.SharedConfig

variable {kind : FileKind} {header : Header} {lines : List (List Char)} {raw : List Char}

/-! ### What is said in one line -/

section

variable {above below : List (List Char)} {text : String}

theorem mem_definitionsOf_iff {said : List Statement} {definition : String × String} :
    definition ∈ definitionsOf said header ↔ ⟨header, some definition⟩ ∈ said := by
  rw [definitionsOf, List.mem_filterMap]
  constructor
  · rintro ⟨⟨other, defined⟩, hmem, hdefined⟩
    obtain ⟨hsaid, hother⟩ := List.mem_filter.mp hmem
    obtain rfl : other = header := by simpa using hother
    obtain rfl : defined = some definition := hdefined
    exact hsaid
  · intro hmem
    exact ⟨_, List.mem_filter.mpr ⟨hmem, by simp⟩, rfl⟩

/-- A line that defines something is a plain one below a header. -/
theorem statement?_eq_definition {current : Option Header} {definition : String × String}
    (h : statement? kind current raw below = some ⟨header, some definition⟩) :
    isPlain raw = true ∧ current = some header ∧
      definition? raw (foldedBelow below) = some definition := by
  unfold statement? at h
  split at h
  · obtain ⟨_, -, heq⟩ := Option.map_eq_some_iff.mp h
    cases heq
  · split at h
    · next hplain =>
      obtain ⟨other, hcurrent, hdefined⟩ := Option.bind_eq_some_iff.mp h
      obtain ⟨_, hdefinition, heq⟩ := Option.map_eq_some_iff.mp hdefined
      cases heq
      exact ⟨hplain, hcurrent, hdefinition⟩
    · cases h

/-- What the lines say, one of them apart. -/
theorem saidIn_of_plain (hlines : Text.lines text.toList = above ++ raw :: below)
    (hplain : isPlain raw = true) :
    saidIn kind text = statements kind none above
      ++ ((above.foldl (headerBelow kind) none).bind fun header =>
          (definition? raw (foldedBelow below)).map fun definition =>
            (⟨header, some definition⟩ : Statement)).toList
        ++ statements kind (above.foldl (headerBelow kind) none) below := by
  have hheader : ¬isHeader raw = true := by simp [isHeader_of_isPlain hplain]
  have hopens : ∀ line ∈ (raw :: below).head?, opens line = true := by
    rintro _ ⟨⟩
    rw [opens, hplain, Bool.or_true]
  rw [saidIn, hlines, statements_append_of_opens hopens, statements, statement?, headerBelow,
    if_neg hheader, if_neg hheader, if_pos hplain, List.append_assoc]

theorem definitionsOf_append_cons (said rest : List Statement) (definition : String × String) :
    definitionsOf (said ++ [⟨header, some definition⟩] ++ rest) header
      = definitionsOf said header ++ definition :: definitionsOf rest header := by
  rw [definitionsOf_append, definitionsOf_append, List.append_assoc]
  simp [definitionsOf]

end

/-! ### The last definition of a key -/

/-- A key is defined in a line, and not again below it. -/
structure DefinedAt (kind : FileKind) (header : Header) (key : String) (own : List Char)
    (nested above : List (List Char)) (raw : List Char) (below : List (List Char)) : Prop where
  plain : isPlain raw = true
  under : above.foldl (headerBelow kind) none = some header
  property : ownProperty raw = (key.toList, own)
  nested : (foldedBelow below).map Text.trim = nested
  /-- Where the header counts again, other keys are defined. -/
  last : ∀ between later rest, below = between ++ later :: rest → isPlain later = true →
    between.foldl (headerBelow kind) (some header) = some header →
      (ownProperty later).1 ≠ key.toList

/-- A key that stands in no line below is not defined again. -/
theorem DefinedAt.of_not_mem {key : String} {own : List Char}
    {nested above below : List (List Char)} (hplain : isPlain raw = true)
    (hunder : above.foldl (headerBelow kind) none = some header)
    (hproperty : ownProperty raw = (key.toList, own))
    (hnested : (foldedBelow below).map Text.trim = nested)
    (hother : ∀ later ∈ below, (ownProperty later).1 ≠ key.toList) :
    DefinedAt kind header key own nested above raw below where
  plain := hplain
  under := hunder
  property := hproperty
  nested := hnested
  last between later rest hbelow _ _ := hother later (by rw [hbelow]; simp)

/-- The last definition of a key under a header, with the value on the line itself and the lines
that are nested under it. -/
def Defines (kind : FileKind) (text : String) (header : Header) (key : String) (own : List Char)
    (nested : List (List Char)) : Prop :=
  ∃ above raw below, Text.lines text.toList = above ++ raw :: below ∧
    DefinedAt kind header key own nested above raw below

/-- A header takes the place of no other one: a bare heading counts only if the longer one does not
come anywhere. -/
def Counts (kind : FileKind) (text : String) (header : Header) : Prop :=
  header.prefixed = false → ∀ raw ∈ Text.lines text.toList, isHeader raw = true →
    headerIn? kind raw ≠ some { header with prefixed := true }

section

variable {text key : String} {own : List Char} {nested : List (List Char)}

/-- The header that counts is that of a line above, or the one it started with. -/
theorem mem_of_foldl_headerBelow {current : Option Header}
    (h : lines.foldl (headerBelow kind) current = some header) :
    current = some header ∨
      ∃ raw ∈ lines, isHeader raw = true ∧ headerIn? kind raw = some header := by
  induction lines generalizing current with
  | nil => exact .inl h
  | cons raw lines ih =>
    rcases ih h with hhere | ⟨line, hline, hread⟩
    · unfold headerBelow at hhere
      split at hhere
      · next hheader => exact .inr ⟨raw, List.mem_cons_self, hheader, hhere⟩
      · exact .inl hhere
    · exact .inr ⟨line, List.mem_cons_of_mem raw hline, hread⟩

/-- Every header of a statement stands in some line. -/
theorem exists_line_of_mem_headersOf (h : header ∈ headersOf (saidIn kind text)) :
    ∃ raw ∈ Text.lines text.toList, isHeader raw = true ∧ headerIn? kind raw = some header := by
  obtain ⟨said, hsaid, rfl⟩ := List.mem_map.mp h
  obtain ⟨above, raw, below, hlines, hstatement⟩ := mem_statements hsaid
  rw [hlines]
  unfold statement? at hstatement
  split at hstatement
  · next hheader =>
    obtain ⟨header, hread, rfl⟩ := Option.map_eq_some_iff.mp hstatement
    exact ⟨raw, by simp, hheader, hread⟩
  · split at hstatement
    · obtain ⟨header, hcurrent, hdefined⟩ := Option.bind_eq_some_iff.mp hstatement
      obtain ⟨definition, -, rfl⟩ := Option.map_eq_some_iff.mp hdefined
      rcases mem_of_foldl_headerBelow hcurrent with hnone | ⟨line, hline, hread⟩
      · cases hnone
      · exact ⟨line, by simp [hline], hread⟩
    · cases hstatement

theorem Counts.lookup_eq_none (h : Counts kind text header) (hbare : header.prefixed = false) :
    (sectionsOf (saidIn kind text)).lookup { header with prefixed := true } = none := by
  apply lookup_sectionsOf_of_not_mem
  intro hmem
  obtain ⟨raw, hraw, hheader, hread⟩ := exists_line_of_mem_headersOf hmem
  exact h hbare raw hraw hheader hread

/-- Below its last definition nothing is said about a key. -/
theorem DefinedAt.ne_of_mem {above below : List (List Char)} {raw : List Char}
    (h : DefinedAt kind header key own nested above raw below) :
    ∀ pair ∈ definitionsOf (statements kind (some header) below) header, pair.1 ≠ key := by
  rintro pair hpair rfl
  obtain ⟨between, later, rest, hbelow, hstatement⟩ :=
    mem_statements (mem_definitionsOf_iff.mp hpair)
  obtain ⟨hplain, hcurrent, hdefinition⟩ := statement?_eq_definition hstatement
  apply h.last between later rest hbelow hplain hcurrent
  rw [definition?] at hdefinition
  split at hdefinition
  · cases hdefinition
    exact String.toList_ofList.symm
  · cases hdefinition

/-- What is said about a key comes to its last definition. -/
theorem Defines.lookup_definitionsOf (h : Defines kind text header key own nested)
    (hkey : isIdentifier key.toList = true) :
    (definitionsOf (saidIn kind text) header).reverse.lookup key
      = some (String.ofList (List.intercalate ['\n'] (own :: nested))) := by
  obtain ⟨above, raw, below, hlines, hat⟩ := h
  have hdefinition : definition? raw (foldedBelow below)
      = some (key, String.ofList (List.intercalate ['\n'] (own :: nested))) := by
    rw [definition?, hat.property, if_pos hkey, hat.nested, String.ofList_toList]
  have hsaid := @saidIn_of_plain kind raw above below text hlines hat.plain
  rw [hat.under, Option.bind_some, hdefinition, Option.map_some, Option.toList_some] at hsaid
  have hrest : (definitionsOf (statements kind (some header) below) header).reverse.lookup key
      = none := by
    rw [List.lookup_eq_none_iff]
    intro pair hpair
    exact bne_iff_ne.mpr (Ne.symm (hat.ne_of_mem pair (List.mem_reverse.mp hpair)))
  rw [hsaid, definitionsOf_append_cons, List.reverse_append, List.reverse_cons, List.lookup_append,
    List.lookup_append, hrest, Option.none_or]
  simp

/-- **The last definition of a key is found in the file**, under the kind and the name of its
header. -/
theorem exists_get?_of_defines {file : File} (hparse : (File.parse kind text).1 = .ok file)
    (h : Defines kind text header key own nested) (hkey : isIdentifier key.toList = true)
    (hcounts : Counts kind text header) :
    ∃ s, (file.ofKind header.kind).get? header.name = some s ∧
      s.get? key = some (String.ofList (List.intercalate ['\n'] (own :: nested))) := by
  have hlookup := h.lookup_definitionsOf hkey
  refine ⟨sectionOf (saidIn kind text) header, ?_, ?_⟩
  · have hmem : header ∈ headersOf (saidIn kind text) := by
      by_contra hnot
      rw [definitionsOf_of_not_mem hnot] at hlookup
      cases hlookup
    have hhere := lookup_sectionsOf hmem
    rw [(filed_of_parse hparse).found]
    rcases header with ⟨sectionKind, name, - | -⟩
    · have hnone := hcounts.lookup_eq_none rfl
      dsimp only at hnone ⊢
      rw [hnone, Option.none_or, hhere]
    · dsimp only
      rw [hhere, Option.some_or]
  · rw [sectionOf, Section.get?, Table.get?_ofList, hlookup]

end

/-! ### Nested lines -/

/-- A line as it is kept in a block: there is something of it, and it is all on one line. -/
def IsNested (line : List Char) : Prop := line ≠ [] ∧ '\n' ∉ line ∧ Text.dropLineEnd line = line

/-- The lines that are folded onto another one are kept that way. -/
theorem isNested_of_mem_foldedBelow {text : List Char} {above below : List (List Char)}
    (hlines : Text.lines text = above ++ raw :: below) :
    ∀ line ∈ (foldedBelow below).map Text.trim, IsNested line := by
  intro line hline
  obtain ⟨written, hwritten, rfl⟩ := List.mem_map.mp hline
  obtain ⟨hmem, hfolded⟩ := List.mem_filter.mp hwritten
  have hbelow : written ∈ below := (List.takeWhile_sublist _).mem hmem
  refine ⟨?_, ?_, Text.dropLineEnd_trim written⟩
  · intro hnil
    have hblank : Text.isBlankText written = true := by
      rw [← Text.isBlankText_trim, hnil]
      rfl
    have hskip : isSkipped written = false := (isFolded_iff.mp hfolded).1
    simp [isSkipped, hblank] at hskip
  · intro hmem
    have hwhere : written ∈ Text.lines text := by
      rw [hlines]
      simp [hbelow]
    exact Text.newline_not_mem_of_mem_lines hwhere (Text.mem_of_mem_trim hmem)

theorem Defines.isNested {text key : String} {own : List Char} {nested : List (List Char)}
    (h : Defines kind text header key own nested) : ∀ line ∈ nested, IsNested line := by
  obtain ⟨above, raw, below, hlines, hat⟩ := h
  rw [← hat.nested]
  exact isNested_of_mem_foldedBelow hlines

/-! ### Sub-properties -/

/-- A line sets a key: the two stand on either side of its first `=`. -/
def Sets (line : List Char) (key value : String) : Prop :=
  ∃ before after, line = before ++ '=' :: after ∧ '=' ∉ before ∧
    Text.trim before = key.toList ∧ Text.trim after = value.toList

theorem subPropertyOfLine?_eq_some_iff {line : List Char} {key value : String} :
    Section.subPropertyOfLine? line = some (key, value) ↔ key ≠ "" ∧ Sets line key value := by
  have htoList : ∀ {cs : List Char} {s : String}, String.ofList cs = s ↔ cs = s.toList := by
    intro cs s
    rw [← String.toList_inj, String.toList_ofList]
  unfold Section.subPropertyOfLine?
  constructor
  · intro h
    split at h
    · cases h
    · next before after hsplit =>
      obtain ⟨hline, hmark⟩ := Text.splitFirst?_eq_some_iff.mp hsplit
      split at h
      · cases h
      · next hne =>
        obtain ⟨hkey, hvalue⟩ := Prod.mk.inj (Option.some.inj h)
        rw [htoList] at hkey hvalue
        refine ⟨?_, before, after, hline, hmark, hkey, hvalue⟩
        rintro rfl
        exact hne hkey
  · rintro ⟨hne, before, after, rfl, hmark, hkey, hvalue⟩
    have hnonempty : Text.trim before ≠ [] := by
      rw [hkey]
      intro hnil
      exact hne (String.toList_inj.mp hnil)
    rw [Text.splitFirst?_append hmark]
    dsimp only
    rw [if_neg hnonempty, hkey, hvalue, String.ofList_toList, String.ofList_toList]

section

variable {s : Section} {key subKey value : String} {nested front back : List (List Char)}
  {line : List Char}

/-- **A value is read line by line**, what stands on the line of the key like the lines below. -/
theorem subProperties_of_lines {own : List Char}
    (hvalue : s.get? key = some (String.ofList (List.intercalate ['\n'] (own :: nested))))
    (hown : '\n' ∉ own) (hend : Text.dropLineEnd own = own)
    (hnested : ∀ line ∈ nested, IsNested line) :
    s.subProperties key = (own :: nested).filterMap Section.subPropertyOfLine? := by
  have honeLine : ∀ line ∈ own :: nested, '\n' ∉ line :=
    List.forall_mem_cons.mpr ⟨hown, fun line hline => (hnested line hline).2.1⟩
  have hkept : Text.linesOfPieces nested = nested :=
    Text.linesOfPieces_eq_self fun line hline => ⟨(hnested line hline).1, (hnested line hline).2.2⟩
  rw [Section.subProperties, hvalue]
  dsimp only
  rw [String.toList_ofList, Text.lines_intercalate honeLine]
  rcases nested with - | ⟨line, nested⟩
  · -- if there is nothing at all, there is no line either, but nothing is said in both
    rw [Text.linesOfPieces]
    split
    · next hnil =>
      rw [hnil]
      rfl
    · rfl
  · show (Text.dropLineEnd own :: Text.linesOfPieces (line :: nested)).filterMap _ = _
    rw [hkept, hend]

/-- **A block is read line by line.** -/
theorem subProperties_of_block
    (hvalue : s.get? key = some (String.ofList (List.intercalate ['\n'] ([] :: nested))))
    (hnested : ∀ line ∈ nested, IsNested line) :
    s.subProperties key = nested.filterMap Section.subPropertyOfLine? := by
  -- the value on the line of the key is empty, and says nothing
  rw [subProperties_of_lines hvalue List.not_mem_nil rfl hnested]
  rfl

/-- **The last line that sets a sub-property counts.** -/
theorem subProperty?_of_block
    (hvalue : s.get? key = some (String.ofList (List.intercalate ['\n'] ([] :: nested))))
    (hlines : ∀ line ∈ nested, IsNested line) (hnested : nested = front ++ line :: back)
    (hkey : subKey ≠ "") (hline : Sets line subKey value)
    (hback : ∀ later ∈ back, ∀ other, ¬Sets later subKey other) :
    s.subProperty? key subKey = some value := by
  have hhere : Section.subPropertyOfLine? line = some (subKey, value) :=
    subPropertyOfLine?_eq_some_iff.mpr ⟨hkey, hline⟩
  have hnone : (back.filterMap Section.subPropertyOfLine?).reverse.lookup subKey = none := by
    rw [List.lookup_eq_none_iff]
    intro pair hpair
    obtain ⟨later, hlater, hread⟩ := List.mem_filterMap.mp (List.mem_reverse.mp hpair)
    rw [bne_iff_ne]
    rintro rfl
    exact hback later hlater pair.2 (subPropertyOfLine?_eq_some_iff.mp hread).2
  rw [Section.subProperty?, subProperties_of_block hvalue hlines, hnested, List.filterMap_append,
    List.filterMap_cons_some hhere, List.reverse_append, List.lookup_append, List.reverse_cons,
    List.lookup_append, hnone, Option.none_or]
  simp

end

end AwsSigning.SharedConfig
