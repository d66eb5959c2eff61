/-
AwsSigning/Proofs/SharedConfig/PropertyComment.lean

A comment behind a property.

A comment starts behind white space.  A value is trimmed before its comment is
taken off.  So what stands behind a value is seen as a comment
(`stripComment_trim_commented`), but where there is no value the white space is
gone, and what was to be a comment is taken for the value (`own_commented_iff`).

With a comment behind it the line asks no more of the lines below than it did
before, so the file can still be read (`loosens_commented`).  It is another file
if there was no value and the line takes effect (`parse_commented_property`).
-/
import Mathlib.Data.List.Chain
import AwsSigning.Proofs.SharedConfig.HeaderComment
import AwsSigning.Proofs.SharedConfig.Likeness
import AwsSigning.Proofs.SharedConfig.Origin

namespace AwsSigning.SharedConfig

variable {kind : FileKind} {raw before value comment : List Char} {mark : Char}

/-! ### The value on a line -/

theorem commented_property (before value : List Char) (mark : Char) (comment : List Char) :
    commented (before ++ '=' :: value) mark comment
      = before ++ '=' :: commented value mark comment := by
  rw [commented, commented, List.append_assoc, List.cons_append]

theorem isBlank_mark (hmark : mark ∈ ['#', ';']) : Text.isBlank mark = false := by
  have hcases : mark = '#' ∨ mark = ';' := by simpa using hmark
  rcases hcases with rfl | rfl <;> decide

theorem isBlankText_commented (hmark : mark ∈ ['#', ';']) :
    Text.isBlankText (commented value mark comment) = false := by
  rw [Text.isBlankText, commented, List.all_append, List.all_cons, List.all_cons,
    isBlank_mark hmark]
  simp

/-- **Behind a value a comment is taken off**, and the white space in front of it. -/
theorem stripComment_trim_commented (hmark : mark ∈ ['#', ';']) (h : Uncommented value)
    (hvalue : Text.isBlankText value = false) :
    stripComment (Text.trim (commented value mark comment)) = Text.trim value := by
  obtain ⟨front, back, hsplit, hfront, hback⟩ := Text.exists_trim value
  rcases htrim : Text.trim value with - | ⟨c, rest⟩
  · rw [← Text.isBlankText_trim, htrim] at hvalue
    cases hvalue
  have hvisible : Text.isBlank c = false :=
    Text.not_isBlank_of_head?_trim (s := value) (by rw [htrim]; rfl)
  rw [htrim] at hsplit
  have hchain : Uncommented (c :: (rest ++ back)) := by
    rw [hsplit, List.append_assoc] at h
    exact h.right_of_append
  have hwhole : commented value mark comment
      = front ++ (c :: (rest ++ back ++ [' ']) ++ mark :: ' ' :: comment) := by
    rw [hsplit, commented]
    simp
  have hstart : Text.trimStart (c :: (rest ++ back ++ [' ']) ++ mark :: ' ' :: comment)
      = c :: (rest ++ back ++ [' ']) ++ mark :: ' ' :: comment :=
    Text.trimStart_eq_self_iff.mpr (by simpa using hvisible)
  -- the comment starts behind the white space that was put in front of it
  have hspace : ∀ (last : Char) (more : List Char),
      untilComment last (' ' :: mark :: more) = [' '] := by
    have hcases : mark = '#' ∨ mark = ';' := by simpa using hmark
    intro last more
    rcases hcases with rfl | rfl <;> rfl
  have huntil : ∀ more : List Char,
      untilComment c (rest ++ back ++ [' '] ++ mark :: more) = rest ++ back ++ [' '] := by
    intro more
    rw [List.append_assoc (rest ++ back), List.singleton_append, untilComment_append hchain, hspace]
  have hblank : Text.isBlankText (back ++ [' ']) = true := by
    rw [Text.isBlankText] at hback ⊢
    rw [List.all_append, hback]
    rfl
  have htrimmed : Text.trimEnd (c :: rest) = c :: rest := by
    have htwice := Text.trim_trim value
    rw [htrim] at htwice
    exact (Text.trim_eq_self_iff.mp htwice).2
  rw [hwhole, Text.trim_append_of_blank hfront, Text.trim, hstart,
    Text.trimEnd_append_cons (isBlank_mark hmark)]
  show Text.trimEnd (c :: untilComment c (rest ++ back ++ [' '] ++ mark :: _)) = c :: rest
  rw [huntil, List.append_assoc, ← List.cons_append, Text.trimEnd_append_blank _ hblank, htrimmed]

/-- **A comment leaves the value as it is exactly if there is a value.** -/
theorem own_commented_iff (hmark : mark ∈ ['#', ';']) (h : Uncommented value) :
    stripComment (Text.trim (commented value mark comment)) = stripComment (Text.trim value) ↔
      Text.isBlankText value = false := by
  constructor
  · intro hsame
    rw [← Bool.not_eq_true, ← stripComment_trim_eq_nil_iff, ← hsame, stripComment_trim_eq_nil_iff,
      isBlankText_commented hmark]
    exact Bool.false_ne_true
  · intro hvalue
    have htrimmed : Uncommented (Text.trim value) := by
      obtain ⟨front, back, hsplit, -⟩ := Text.exists_trim value
      rw [hsplit] at h
      exact h.left_of_append.right_of_append
    rw [stripComment_trim_commented hmark h hvalue,
      stripComment_eq_self (Text.trim_trim value) htrimmed]

/-! ### The line -/

/-- More text behind a property leaves it a property. -/
theorem isPlain_append (hplain : isPlain raw = true) (more : List Char) :
    isPlain (raw ++ more) = true := by
  obtain ⟨hskip, hheader, hcontinuation⟩ := isPlain_iff.mp hplain
  rcases raw with - | ⟨c, raw⟩
  · cases hskip
  · rw [isSkipped, Bool.or_eq_false_iff] at hskip
    have hseen : Text.isBlankText (c :: raw ++ more) = false := by
      rw [Text.isBlankText] at hskip ⊢
      rw [List.all_append, hskip.1, Bool.false_and]
    refine isPlain_iff.mpr ⟨?_, hheader, hcontinuation⟩
    rw [isSkipped, hseen, Bool.false_or]
    exact hskip.2

/-- **With a comment behind it, a property asks no more of the lines below.** -/
theorem loosens_commented (hplain : isPlain raw = true) (hmarked : '=' ∈ raw) :
    Loosens raw (commented raw mark comment) := by
  have hplain' : isPlain (commented raw mark comment) = true := isPlain_append hplain _
  have hfolded : ∀ {line : List Char}, isPlain line = true → isFolded line = false := by
    intro line hline
    rw [isFolded, (isPlain_iff.mp hline).2.2, Bool.and_false]
  have hheader : ¬isHeader raw = true := by simp [isHeader_of_isPlain hplain]
  constructor
  · exact ⟨by rw [isHeader_of_isPlain hplain, isHeader_of_isPlain hplain'], by rw [hplain, hplain'],
      by rw [hfolded hplain, hfolded hplain'], by simp [commented, hmarked],
      fun h => absurd h (by simp [hfolded hplain]), fun h => absurd h hheader,
      fun h => absurd h hheader⟩
  · intro hblank
    rw [commented, blankValue_append, if_pos hmarked, Bool.and_eq_true] at hblank
    exact hblank.1

/-! ### Files -/

/-- A file can still be read when a line asks no more than it did. -/
theorem exists_parse_of_loosens {text text' : String} {file : File} {raw' : List Char}
    {above below : List (List Char)} (hparse : (File.parse kind text).1 = .ok file)
    (hlines : Text.lines text.toList = above ++ raw :: below)
    (hlines' : Text.lines text'.toList = above ++ raw' :: below) (h : Loosens raw raw') :
    ∃ file', (File.parse kind text').1 = .ok file' := by
  have hself : ∀ lines : List (List Char), List.Forall₂ Loosens lines lines := fun lines =>
    List.forall₂_same.mpr fun line _ => (LooksLike.refl line).loosens
  have hall : List.Forall₂ Loosens (Text.lines text.toList) (Text.lines text'.toList) := by
    rw [hlines, hlines']
    exact List.rel_append (hself above) (.cons h (hself below))
  rw [parse_eq, outcomeOf_eq_ok_iff] at hparse
  refine ⟨_, (parse_eq kind text').trans (outcomeOf_eq_ok_iff.mpr ⟨?_, ?_, rfl⟩)⟩
  · exact foldingFault?_of_loosens hall .nil hparse.1
  · rw [← groupingFault?_congr (hall.imp fun _ _ h => h.toResembles)]
    exact hparse.2.1

/-- With a comment behind one line the others are what they were; of the comment itself a carriage
return may be lost to the line ending. -/
theorem exists_lines_commented {text : String} {above below : List (List Char)} {slot : Text.Slot}
    (hlines : Text.lines text.toList = above ++ raw :: below)
    (hslot : slot.fill raw = text.toList) (habove : slot.above = above) (hne : raw ≠ [])
    (hmark : mark ∈ ['#', ';']) (hcomment : '\n' ∉ comment) :
    ∃ comment', Text.lines (slot.fill (commented raw mark comment))
      = above ++ commented raw mark comment' :: below := by
  obtain ⟨rest, cut, hcut, hfill⟩ := slot.exists_lines_fill
  have hraw : '\n' ∉ raw :=
    Text.newline_not_mem_of_mem_lines (s := text.toList) (by rw [hlines]; simp)
  have hhere := hfill raw hne hraw
  rw [hslot, hlines, habove] at hhere
  obtain ⟨-, rfl⟩ := List.cons.inj (List.append_cancel_left hhere)
  have hwhole : '\n' ∉ commented raw mark comment := by
    have hvisible : '\n' ≠ mark := by
      rintro rfl
      exact absurd (isBlank_mark hmark) (by decide)
    simp only [commented, List.mem_append, List.mem_cons, not_or]
    exact ⟨hraw, by decide, hvisible, by decide, hcomment⟩
  refine ⟨cut comment, ?_⟩
  rw [hfill _ (by simp [commented]) hwhole, cut_commented hcut, habove]

/-- **A comment behind a property**: the file can still be read, and it is another file exactly if
there was no value in front of the comment and the line takes effect. -/
theorem parse_commented_property {text : String} {file : File} {above below : List (List Char)}
    (hparse : (File.parse kind text).1 = .ok file)
    (hlines : Text.lines text.toList = above ++ (before ++ '=' :: value) :: below)
    (hplain : isPlain (before ++ '=' :: value) = true) (hbefore : '=' ∉ before)
    (hvalue : Uncommented value) :
    (∃ slot : Text.Slot, slot.fill (before ++ '=' :: value) = text.toList ∧ slot.above = above) ∧
    ∀ slot : Text.Slot, slot.fill (before ++ '=' :: value) = text.toList → slot.above = above →
      ∀ mark ∈ ['#', ';'], ∀ comment, '\n' ∉ comment → ∃ file',
        (File.parse kind
          (.ofList (slot.fill (commented (before ++ '=' :: value) mark comment)))).1 = .ok file' ∧
        (file ≠ file' ↔ Text.isBlankText value = true ∧
          TakesEffect kind text above (before ++ '=' :: value) below) := by
  refine ⟨Text.exists_fill_eq hlines, fun slot hslot habove mark hmark comment hcomment => ?_⟩
  obtain ⟨comment', hlines'⟩ := exists_lines_commented hlines hslot habove (by simp) hmark hcomment
  rw [← String.toList_ofList (l := slot.fill _)] at hlines'
  have hloosens : Loosens (before ++ '=' :: value)
      (commented (before ++ '=' :: value) mark comment') := loosens_commented hplain (by simp)
  obtain ⟨file', hparse'⟩ := exists_parse_of_loosens hparse hlines hlines' hloosens
  refine ⟨file', hparse', ?_⟩
  -- the key stands in front of the `=` as before, and only the value can have changed
  have hproperty : ownProperty (before ++ '=' :: value)
      = (Text.trim before, stripComment (Text.trim value)) := ownProperty_of_split hbefore
  have hproperty' : ownProperty (commented (before ++ '=' :: value) mark comment')
      = (Text.trim before, stripComment (Text.trim (commented value mark comment'))) := by
    rw [commented_property, ownProperty_of_split hbefore]
  have hkey : (ownProperty (before ++ '=' :: value)).1
      = (ownProperty (commented (before ++ '=' :: value) mark comment')).1 := by
    rw [hproperty, hproperty']
  have hown : (ownProperty (before ++ '=' :: value)).2
      = (ownProperty (commented (before ++ '=' :: value) mark comment')).2 ↔
        Text.isBlankText value = false := by
    rw [hproperty, hproperty', eq_comm]
    exact own_commented_iff hmark hvalue
  have hfile := eq_iff_of_replaced hparse hparse' hlines hlines' hplain
    (isPlain_append hplain _) hkey
  rw [ne_eq, hfile, hown, Classical.not_imp, Bool.not_eq_false, and_comm]

/-! ### A value that is not there -/

/-- A file whose last line is a property with a value. -/
def outputSlot : Text.Slot where
  before := "[default]\nregion =\n".toList
  after := "\n".toList
  opens := .inr ⟨"[default]\nregion =".toList, rfl⟩
  closes := .inr ⟨[], .inl rfl⟩

/-- The section in that file. -/
def outputSection : Section := ⟨"default", [("region", ""), ("output", "json")]⟩

theorem parse_commented_property_output :
    (File.parse .config "[default]\nregion =\noutput = json\n").1
        = .ok { profiles := [("default", outputSection)] } ∧
      (File.parse .config
          (.ofList (outputSlot.fill (commented "output = json".toList ';' "as [text]".toList)))).1
        = .ok { profiles := [("default", outputSection)] } := by
  have hparse : (File.parse .config "[default]\nregion =\noutput = json\n").1
      = .ok { profiles := [("default", outputSection)] } := by
    rw [parse_eq]
    rfl
  have hlines : Text.lines "[default]\nregion =\noutput = json\n".toList
      = ["[default]".toList, "region =".toList]
        ++ ("output ".toList ++ '=' :: " json".toList) :: [] := by
    decide +kernel
  obtain ⟨-, hread⟩ := parse_commented_property hparse hlines (by decide) (by decide) (by decide)
  have hslot : outputSlot.fill ("output ".toList ++ '=' :: " json".toList)
      = "[default]\nregion =\noutput = json\n".toList := by decide +kernel
  have habove : outputSlot.above = ["[default]".toList, "region =".toList] := by decide +kernel
  obtain ⟨file', hparse', hdiffers⟩ :=
    hread outputSlot hslot habove ';' (by simp) "as [text]".toList (by decide)
  have hsame : { profiles := [("default", outputSection)] } = file' := by
    by_contra hne
    exact absurd (hdiffers.mp hne).1 (by decide)
  rw [← hsame] at hparse'
  exact ⟨hparse, hparse'⟩

/-- A file whose last line is a property without a value. -/
def regionSlot : Text.Slot where
  before := "[default]\n".toList
  after := "\n".toList
  opens := .inr ⟨"[default]".toList, rfl⟩
  closes := .inr ⟨[], .inl rfl⟩

/-- With the comment `# none` behind it the region is `# none`. -/
theorem not_transparent_region :
    (File.parse .config (.ofList (regionSlot.fill "region =".toList))).1
        = .ok { profiles := [("default", ⟨"default", [("region", "")]⟩)] } ∧
      (File.parse .config
          (.ofList (regionSlot.fill (commented "region =".toList '#' "none".toList)))).1
        = .ok { profiles := [("default", ⟨"default", [("region", "# none")]⟩)] } ∧
      (File.parse .config
          (.ofList (regionSlot.fill (commented "region =".toList '#' "none".toList)))).1
        ≠ (File.parse .config (.ofList (regionSlot.fill "region =".toList))).1 := by
  have hplain : (File.parse .config (.ofList (regionSlot.fill "region =".toList))).1
      = .ok { profiles := [("default", ⟨"default", [("region", "")]⟩)] } := by
    rw [parse_eq, String.toList_ofList]
    rfl
  have hcomment : (File.parse .config
      (.ofList (regionSlot.fill (commented "region =".toList '#' "none".toList)))).1
        = .ok { profiles := [("default", ⟨"default", [("region", "# none")]⟩)] } := by
    rw [parse_eq, String.toList_ofList]
    rfl
  refine ⟨hplain, hcomment, ?_⟩
  rw [hplain, hcomment]
  simp

end AwsSigning.SharedConfig
