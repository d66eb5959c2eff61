/-
AwsSigning/Proofs/SharedConfig/SubProperties.lean

Sub-properties of any property.

What a file holds under a key is what stands behind the `=` of one line, with
the lines nested under it.  If nothing stands behind the `=`, they are a block,
and each of them sets a sub-property, as the file could not have been read
otherwise (`setsSome_of_nested`).

If something stands there, they were written as a value and not as a block.
That is not recorded, and whichever of these lines happens to have a key is read
as a sub-property all the same (`readsAs_of_get?`).
-/
import Mathlib.Data.List.Forall2
import AwsSigning.Proofs.SharedConfig.Origin
import AwsSigning.Proofs.SharedConfig.Outcome

namespace AwsSigning.SharedConfig

variable {kind : FileKind} {raw : List Char} {above below : List (List Char)}
  {text key value : String}

/-! ### The own value -/

theorem untilComment_prefix (last : Char) (s : List Char) : untilComment last s <+: s := by
  induction s generalizing last with
  | nil => exact List.prefix_rfl
  | cons c s ih =>
    rw [untilComment]
    split
    · exact List.nil_prefix
    · exact List.cons_prefix_cons.mpr ⟨rfl, ih c⟩

theorem mem_of_mem_stripComment {c : Char} {s : List Char} (h : c ∈ stripComment s) : c ∈ s := by
  rcases s with - | ⟨first, s⟩
  · exact h
  · have huntil : c ∈ first :: untilComment first s := by
      rw [stripComment, Text.trimEnd, List.mem_reverse] at h
      exact List.mem_reverse.mp ((List.dropWhile_suffix _).mem h)
    exact (List.cons_prefix_cons.mpr ⟨rfl, untilComment_prefix first s⟩).mem huntil

theorem dropLineEnd_stripComment (s : List Char) :
    Text.dropLineEnd (stripComment s) = stripComment s := by
  rcases s with - | ⟨first, s⟩
  · rfl
  · exact Text.dropLineEnd_trimEnd _

/-- An own value is a line as it is. -/
theorem own_oneLine (hraw : '\n' ∉ raw) :
    '\n' ∉ (ownProperty raw).2 ∧ Text.dropLineEnd (ownProperty raw).2 = (ownProperty raw).2 := by
  rcases hsplit : Text.splitFirst? '=' raw with - | ⟨before, after⟩
  · rw [ownProperty, hsplit]
    exact ⟨List.not_mem_nil, rfl⟩
  · obtain ⟨rfl, hbefore⟩ := Text.splitFirst?_eq_some_iff.mp hsplit
    rw [ownProperty_of_split hbefore]
    refine ⟨fun hmem => hraw ?_, dropLineEnd_stripComment _⟩
    simp [Text.mem_of_mem_trim (mem_of_mem_stripComment hmem)]

theorem own_of_blankValue (h : blankValue raw = true) : (ownProperty raw).2 = [] := by
  rcases hsplit : Text.splitFirst? '=' raw with - | ⟨before, after⟩
  · rw [ownProperty, hsplit]
    rfl
  · obtain ⟨rfl, hbefore⟩ := Text.splitFirst?_eq_some_iff.mp hsplit
    rw [blankValue, hsplit] at h
    rw [ownProperty_of_split hbefore]
    exact stripComment_trim_eq_nil_iff.mpr h

/-! ### The lines of a block -/

/-- A line has a key, so that it can be read as a sub-property. -/
def SetsSome (line : List Char) : Prop := ∃ key value, key ≠ "" ∧ Sets line key value

theorem subPropertyOfLine?_eq_none_iff {line : List Char} :
    Section.subPropertyOfLine? line = none ↔ ¬SetsSome line := by
  constructor
  · rintro hnone ⟨key, value, hkey, hsets⟩
    rw [subPropertyOfLine?_eq_some_iff.mpr ⟨hkey, hsets⟩] at hnone
    cases hnone
  · intro hnot
    by_contra hsome
    obtain ⟨⟨key, value⟩, hread⟩ := Option.ne_none_iff_exists'.mp hsome
    exact hnot ⟨key, value, subPropertyOfLine?_eq_some_iff.mp hread⟩

/-- A line that is fit to stand in a block has a key. -/
theorem setsSome_of_isSubProperty (h : isSubProperty raw = true) : SetsSome (Text.trim raw) := by
  rw [isSubProperty, Bool.and_eq_true, List.contains_iff_mem, decide_eq_true_eq] at h
  obtain ⟨hmark, hfirst⟩ := h
  rcases hsplit : Text.splitFirst? '=' (Text.trim raw) with - | ⟨before, after⟩
  · exact absurd (mark_mem_trim_iff.mpr hmark) (Text.splitFirst?_eq_none_iff.mp hsplit)
  · obtain ⟨hline, hbefore⟩ := Text.splitFirst?_eq_some_iff.mp hsplit
    refine ⟨String.ofList (Text.trim before), String.ofList (Text.trim after), ?_, before, after,
      hline, hbefore, by rw [String.toList_ofList], by rw [String.toList_ofList]⟩
    intro hempty
    have htrim : Text.trim before = [] := by
      rw [← String.toList_ofList (l := Text.trim before), hempty]
      rfl
    -- the line starts with what is to be seen, and that is no `=`
    rcases before with - | ⟨c, before⟩
    · rw [hline] at hfirst
      exact hfirst rfl
    · have hvisible : Text.isBlank c = false :=
        Text.not_isBlank_of_head?_trim (s := raw) (by rw [hline]; rfl)
      have hblank : Text.isBlankText (c :: before) = true := by
        rw [← Text.isBlankText_trim, htrim]
        rfl
      have hc : Text.isBlank c = true := List.all_eq_true.mp hblank c List.mem_cons_self
      rw [hvisible] at hc
      cases hc

/-- **In a file that was read, every line of a block has a key.** -/
theorem setsSome_of_nested {file : File} (hparse : (File.parse kind text).1 = .ok file)
    (hlines : Text.lines text.toList = above ++ raw :: below) (hplain : isPlain raw = true)
    (hblank : blankValue raw = true) :
    ∀ line ∈ (foldedBelow below).map Text.trim, SetsSome line := by
  obtain ⟨logical, hfold, -⟩ := exists_parse_iff_passes.mp ⟨file, hparse⟩
  have hfaultless := exists_foldLines_iff.mp ⟨logical, hfold⟩
  have hmark : '=' ∈ raw := by
    by_contra hmark
    rw [blankValue_of_not_mem hmark] at hblank
    cases hblank
  intro line hline
  obtain ⟨written, hwritten, rfl⟩ := List.mem_map.mp hline
  obtain ⟨before, after, hsplit⟩ := List.append_of_mem hwritten
  obtain ⟨hfolded, between, rest, rfl, -, hbetween⟩ := split_of_foldedBelow hsplit
  have hnone := hfaultless (above ++ raw :: between) written rest (by rw [hlines]; simp)
  rw [viewOf_of_plain hbetween above hplain] at hnone
  have hawaits : awaitsKeys (raw :: between.filter isFolded) = true := by
    rw [awaitsKeys, if_pos hmark, hblank]
  exact setsSome_of_isSubProperty ((View.fault?_eq_none_iff.mp hnone hfolded).2.2 hawaits)

theorem forall₂_filterMap {α β : Type} {f : α → Option β} {l : List α}
    (h : ∀ x ∈ l, f x ≠ none) : List.Forall₂ (fun x y => f x = some y) l (l.filterMap f) := by
  induction l with
  | nil => exact .nil
  | cons x l ih =>
    rw [List.forall_mem_cons] at h
    obtain ⟨y, hy⟩ := Option.ne_none_iff_exists'.mp h.1
    rw [List.filterMap_cons_some hy]
    exact .cons hy (ih h.2)

/-! ### What is read -/

/-- What is read as the sub-properties of a key, told from the lines it is defined in. -/
structure ReadsAs (s : Section) (key : String) (raw own : List Char) (nested : List (List Char)) :
    Prop where
  /-- The last definition counts. -/
  last : ∀ subKey value, s.subProperty? key subKey = some value ↔
    ∃ front back, s.subProperties key = front ++ (subKey, value) :: back ∧
      ∀ pair ∈ back, pair.1 ≠ subKey
  /-- A block gives one sub-property for each of its lines. -/
  block : blankValue raw = true →
    List.Forall₂ (fun line pair => pair.1 ≠ "" ∧ Sets line pair.1 pair.2) nested
      (s.subProperties key)
  /-- Where there is no block, sub-properties are read from the lines that have a key. -/
  plain : blankValue raw = false →
    ((s.subProperties key = [] ∧ ∀ subKey, s.subProperty? key subKey = none) ↔
      ∀ line ∈ own :: nested, ¬SetsSome line)

theorem subProperty?_eq_some_iff {s : Section} {subKey : String} :
    s.subProperty? key subKey = some value ↔
      ∃ front back, s.subProperties key = front ++ (subKey, value) :: back ∧
        ∀ pair ∈ back, pair.1 ≠ subKey := by
  rw [Section.subProperty?, List.lookup_eq_some_iff]
  constructor
  · rintro ⟨back, front, hreverse, hback⟩
    refine ⟨front.reverse, back.reverse, ?_, ?_⟩
    · rw [← List.reverse_reverse (s.subProperties key), hreverse]
      simp
    · intro pair hpair
      have hne := hback pair (List.mem_reverse.mp hpair)
      exact Ne.symm (by simpa using hne)
  · rintro ⟨front, back, hsplit, hback⟩
    refine ⟨back.reverse, front.reverse, by rw [hsplit]; simp, ?_⟩
    intro pair hpair
    have hne := hback pair (List.mem_reverse.mp hpair)
    simpa using Ne.symm hne

/-- **What is read as sub-properties**, for every property of every file that is read. -/
theorem readsAs_of_get? {file : File} (hparse : (File.parse kind text).1 = .ok file)
    {sectionKind : SectionKind} {name : String} {s : Section}
    (hs : (file.ofKind sectionKind).get? name = some s) (hget : s.get? key = some value) :
    ∃ header own nested above raw below, header.kind = sectionKind ∧ header.name = name ∧
      Counts kind text header ∧ Text.lines text.toList = above ++ raw :: below ∧
      DefinedAt kind header key own nested above raw below ∧
      ReadsAs s key raw own nested := by
  obtain ⟨header, own, nested, above, raw, below, hkind, hname, hcounts, hlines, hat, rfl⟩ :=
    exists_definedAt_of_get? hparse hs hget
  refine ⟨header, own, nested, above, raw, below, hkind, hname, hcounts, hlines, hat, ?_⟩
  have hownRaw : (ownProperty raw).2 = own := congrArg Prod.snd hat.property
  have hnested : ∀ line ∈ nested, IsNested line := by
    rw [← hat.nested]
    exact isNested_of_mem_foldedBelow hlines
  have hraw : '\n' ∉ raw := Text.newline_not_mem_of_mem_lines (s := text.toList) (by
    rw [hlines]
    simp)
  obtain ⟨hown, hend⟩ := own_oneLine hraw
  rw [hownRaw] at hown hend
  have hread := subProperties_of_lines hget hown hend hnested
  constructor
  · exact fun subKey value => subProperty?_eq_some_iff
  · intro hblank
    have hnil : own = [] := hownRaw ▸ own_of_blankValue hblank
    have hkeys : ∀ line ∈ nested, Section.subPropertyOfLine? line ≠ none := by
      intro line hline hnone
      rw [← hat.nested] at hline
      exact subPropertyOfLine?_eq_none_iff.mp hnone
        (setsSome_of_nested hparse hlines hat.plain hblank line hline)
    have hblock : s.subProperties key = nested.filterMap Section.subPropertyOfLine? := by
      rw [hread, hnil]
      rfl
    rw [hblock]
    exact (forall₂_filterMap hkeys).imp fun line pair hpair =>
      subPropertyOfLine?_eq_some_iff.mp hpair
  · intro _
    have hempty : s.subProperties key = [] ↔ ∀ line ∈ own :: nested, ¬SetsSome line := by
      rw [hread, List.filterMap_eq_nil_iff]
      exact forall₂_congr fun line _ => subPropertyOfLine?_eq_none_iff
    rw [← hempty]
    refine ⟨And.left, fun hnil => ⟨hnil, fun subKey => ?_⟩⟩
    rw [Section.subProperty?, hnil]
    rfl

/-! ### A block and a value that looks like one -/

/-- A block with a key set twice, and below it a value that ends in an `=`. -/
def tokenText : String := "[default]\ns3 =\n  a = 1\n  a = b = c\ntoken = xyz=\n"

/-- The section in that text. -/
def tokenSection : Section :=
  ⟨"default", [("s3", "\na = 1\na = b = c"), ("token", "xyz=")]⟩

theorem readsAs_of_get?_tokenText :
    (File.parse .config tokenText).1 = .ok { profiles := [("default", tokenSection)] } ∧
      tokenSection.get? "s3" = some "\na = 1\na = b = c" ∧
      ∃ header own nested above raw below, header.kind = .profile ∧ header.name = "default" ∧
        Counts .config tokenText header ∧ Text.lines tokenText.toList = above ++ raw :: below ∧
        DefinedAt .config header "s3" own nested above raw below ∧
        ReadsAs tokenSection "s3" raw own nested := by
  have hparse : (File.parse .config tokenText).1
      = .ok { profiles := [("default", tokenSection)] } := by
    rw [parse_eq]
    rfl
  have hget : tokenSection.get? "s3" = some "\na = 1\na = b = c" := by decide
  have hs : (File.ofKind { profiles := [("default", tokenSection)] } .profile).get? "default"
      = some tokenSection := by decide
  exact ⟨hparse, hget, readsAs_of_get? hparse hs hget⟩

/-- What stands behind the `=` of a token is read as a sub-property with no value. -/
theorem subProperties_token_ne_nil :
    (File.parse .config tokenText).1 = .ok { profiles := [("default", tokenSection)] } ∧
      "token = xyz=".toList ∈ Text.lines tokenText.toList ∧
      blankValue "token = xyz=".toList = false ∧
      tokenSection.subProperties "token" = [("xyz", "")] ∧
      tokenSection.subProperty? "token" "xyz" = some "" := by
  refine ⟨?_, by decide +kernel, by decide, by decide +kernel, by decide +kernel⟩
  rw [parse_eq]
  rfl

end AwsSigning.SharedConfig
