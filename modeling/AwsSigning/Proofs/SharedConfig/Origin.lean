/-
AwsSigning/Proofs/SharedConfig/Origin.lean

Where the contents of a file come from.

What a file holds under a key comes from one line of it, the last one that
defines the key under a header that counts (`exists_definedAt_of_get?`).  Nothing
else matters: two files are the same if they have the same headers, in the same
order, and under each header that counts the same properties (`eq_of_said`).

So to write another value in one line of a file changes the file exactly if the
line takes effect in it (`eq_iff_of_replaced`).
-/
import AwsSigning.Proofs.SharedConfig.Blocks
import AwsSigning.Proofs.SharedConfig.Outcome

namespace AwsSigning.SharedConfig

variable {kind : FileKind} {header : Header} {raw : List Char}
  {lines above below : List (List Char)} {text text' key value : String}
  {file file' : File}

/-! ### Where a value comes from -/

/-- What is found last under a key was said in some line, and nothing below it defines the key. -/
theorem exists_line_of_lookup {current : Option Header}
    (h : (definitionsOf (statements kind current lines) header).reverse.lookup key = some value) :
    ∃ above raw below, lines = above ++ raw :: below ∧ isPlain raw = true ∧
      above.foldl (headerBelow kind) current = some header ∧
      definition? raw (foldedBelow below) = some (key, value) ∧
      ∀ pair ∈ definitionsOf (statements kind (some header) below) header, pair.1 ≠ key := by
  induction lines generalizing current with
  | nil => cases h
  | cons raw below ih =>
    rw [statements, definitionsOf_append, List.reverse_append, List.lookup_append] at h
    rcases hrest : (definitionsOf (statements kind (headerBelow kind current raw) below)
        header).reverse.lookup key with - | found
    · -- nothing is said further down, so it is this line
      rw [hrest, Option.none_or] at h
      obtain ⟨front, back, hsplit, -⟩ := List.lookup_eq_some_iff.mp h
      have hmem :
          (key, value) ∈ definitionsOf (statement? kind current raw below).toList header := by
        rw [← List.mem_reverse, hsplit]
        simp
      obtain ⟨hplain, hcurrent, hdefinition⟩ :=
        statement?_eq_definition (Option.mem_toList.mp (mem_definitionsOf_iff.mp hmem))
      have hthere : headerBelow kind current raw = some header := by
        rw [headerBelow, if_neg (by simp [isHeader_of_isPlain hplain]), hcurrent]
      rw [hthere] at hrest
      refine ⟨[], raw, below, rfl, hplain, hcurrent, hdefinition, fun pair hpair heq => ?_⟩
      have hne := List.lookup_eq_none_iff.mp hrest pair (List.mem_reverse.mpr hpair)
      simp [heq] at hne
    · rw [hrest] at h
      cases h
      obtain ⟨above, first, rest, rfl, hplain, hunder, hdefinition, hlast⟩ := ih hrest
      exact ⟨raw :: above, first, rest, rfl, hplain, hunder, hdefinition, hlast⟩

/-- A line in which a key is defined under a header is heard of among the definitions. -/
theorem exists_mem_definitionsOf {between rest : List (List Char)} {later : List Char}
    (hkey : isIdentifier key.toList = true) (hplain : isPlain later = true)
    (hunder : between.foldl (headerBelow kind) (some header) = some header)
    (hlater : (ownProperty later).1 = key.toList) :
    ∃ pair ∈ definitionsOf (statements kind (some header) (between ++ later :: rest)) header,
      pair.1 = key := by
  obtain ⟨front, hfront⟩ := @statements_append kind (some header) between (later :: rest)
  have hdefinition : ∃ text, definition? later (foldedBelow rest) = some (key, text) := by
    rw [definition?, hlater, if_pos hkey, String.ofList_toList]
    exact ⟨_, rfl⟩
  obtain ⟨text, hdefinition⟩ := hdefinition
  have hsaid : statement? kind (some header) later rest = some ⟨header, some (key, text)⟩ := by
    rw [statement?, if_neg (by simp [isHeader_of_isPlain hplain]), if_pos hplain,
      Option.bind_some, hdefinition]
    rfl
  refine ⟨(key, text), ?_, rfl⟩
  rw [mem_definitionsOf_iff, hfront, hunder, statements, hsaid]
  simp

/-- A plain line below which nothing is said about its key is the last one to define it. -/
theorem definedAt_of_forall_ne (hplain : isPlain raw = true)
    (hunder : above.foldl (headerBelow kind) none = some header)
    (hidentifier : isIdentifier (ownProperty raw).1 = true)
    (hlast : ∀ pair ∈ definitionsOf (statements kind (some header) below) header,
      pair.1 ≠ String.ofList (ownProperty raw).1) :
    DefinedAt kind header (String.ofList (ownProperty raw).1) (ownProperty raw).2
      ((foldedBelow below).map Text.trim) above raw below where
  plain := hplain
  under := hunder
  property := by rw [String.toList_ofList]
  nested := rfl
  last := by
    rintro between later rest rfl hlater hthere hkey
    have hlegal : isIdentifier (String.ofList (ownProperty raw).1).toList = true := by
      rwa [String.toList_ofList]
    obtain ⟨pair, hpair, heq⟩ := exists_mem_definitionsOf hlegal hlater hthere hkey
    exact hlast pair hpair heq

/-- Every header line that counts is heard of. -/
theorem mem_headersOf_of_line (hraw : raw ∈ Text.lines text.toList) (hheader : isHeader raw = true)
    (hread : headerIn? kind raw = some header) : header ∈ headersOf (saidIn kind text) := by
  obtain ⟨above, below, hlines⟩ := List.append_of_mem hraw
  obtain ⟨front, hfront⟩ := @statements_append kind none above (raw :: below)
  rw [saidIn, hlines, hfront, statements, statement?, if_pos hheader, hread]
  simp [headersOf]

/-- A header counts if the longer one, where there can be one, is not heard of. -/
theorem counts_iff : Counts kind text header ↔ (header.prefixed = false →
    { header with prefixed := true } ∉ headersOf (saidIn kind text)) := by
  constructor
  · intro hcounts hbare hmem
    obtain ⟨raw, hraw, hheader, hread⟩ := exists_line_of_mem_headersOf hmem
    exact hcounts hbare raw hraw hheader hread
  · intro hnot hbare raw hraw hheader hread
    exact hnot hbare (mem_headersOf_of_line hraw hheader hread)

/-- The longer header always counts. -/
theorem counts_prefixed {sectionKind : SectionKind} {name : String} :
    Counts kind text ⟨sectionKind, name, true⟩ := by
  intro hbare
  cases hbare

/-- **What is found under a key comes from the last line that defines it.** -/
theorem exists_definedAt_of_get? {file : File} (hparse : (File.parse kind text).1 = .ok file)
    {sectionKind : SectionKind} {name : String} {s : Section}
    (hs : (file.ofKind sectionKind).get? name = some s) (hget : s.get? key = some value) :
    ∃ header own nested above raw below, header.kind = sectionKind ∧ header.name = name ∧
      Counts kind text header ∧ Text.lines text.toList = above ++ raw :: below ∧
      DefinedAt kind header key own nested above raw below ∧
      value = String.ofList (List.intercalate ['\n'] (own :: nested)) := by
  have hfound : ∃ header : Header, header.kind = sectionKind ∧ header.name = name ∧
      Counts kind text header ∧ (sectionsOf (saidIn kind text)).lookup header = some s := by
    rw [(filed_of_parse hparse).found] at hs
    rcases hprefixed : (sectionsOf (saidIn kind text)).lookup ⟨sectionKind, name, true⟩ with - | s'
    · rw [hprefixed, Option.none_or] at hs
      refine ⟨⟨sectionKind, name, false⟩, rfl, rfl, counts_iff.mpr fun _ hmem => ?_, hs⟩
      rw [lookup_sectionsOf hmem] at hprefixed
      cases hprefixed
    · rw [hprefixed] at hs
      cases hs
      exact ⟨⟨sectionKind, name, true⟩, rfl, rfl, counts_prefixed, hprefixed⟩
  obtain ⟨header, hkind, hname, hcounts, hlookup⟩ := hfound
  rw [eq_sectionOf hlookup, sectionOf, Section.get?, Table.get?_ofList] at hget
  obtain ⟨above, raw, below, hlines, hplain, hunder, hdefinition, hlast⟩ :=
    exists_line_of_lookup hget
  unfold definition? at hdefinition
  split at hdefinition
  · next hidentifier =>
    obtain ⟨rfl, rfl⟩ := Prod.mk.inj (Option.some.inj hdefinition)
    exact ⟨header, (ownProperty raw).2, (foldedBelow below).map Text.trim, above, raw, below,
      hkind, hname, hcounts, hlines, definedAt_of_forall_ne hplain hunder hidentifier hlast, rfl⟩
  · cases hdefinition

/-! ### What a file is given by -/

/-- Two files have the same names in them, in the same order. -/
def SameNames (file file' : File) : Prop :=
  ∀ sectionKind, (file.ofKind sectionKind).map Prod.fst = (file'.ofKind sectionKind).map Prod.fst

/-- Where a section goes does not depend on what it holds. -/
theorem SameNames.withSection (h : SameNames file file') (header : Header) (s s' : Section) :
    SameNames (file.withSection kind (header, s)) (file'.withSection kind (header, s')) := by
  have hhas : (file.ofKind header.kind).has header.name
      = (file'.ofKind header.kind).has header.name := by
    rw [Bool.eq_iff_iff, Table.has_iff, Table.has_iff, h header.kind]
  rw [File.withSection, File.withSection]
  dsimp only
  rw [hhas]
  split
  · exact h
  · intro sectionKind
    by_cases hkind : sectionKind = header.kind
    · subst hkind
      rw [File.ofKind_put, File.ofKind_put]
      by_cases hmem : header.name ∈ (file.ofKind header.kind).map Prod.fst
      · rw [Table.keys_set_of_mem hmem, Table.keys_set_of_mem (h header.kind ▸ hmem), h header.kind]
      · rw [Table.keys_set_of_not_mem hmem, Table.keys_set_of_not_mem (h header.kind ▸ hmem),
          h header.kind]
    · rw [File.ofKind_put_of_ne hkind, File.ofKind_put_of_ne hkind]
      exact h sectionKind

theorem SameNames.foldl_withSection (h : SameNames file file') (headers : List Header)
    (f g : Header → Section) :
    SameNames ((headers.map fun header => (header, f header)).foldl (File.withSection kind) file)
      ((headers.map fun header => (header, g header)).foldl (File.withSection kind) file') := by
  induction headers generalizing file file' with
  | nil => exact h
  | cons header headers ih => exact ih (h.withSection header (f header) (g header))

theorem File.eq_of_ofKind (h : ∀ sectionKind, file.ofKind sectionKind = file'.ofKind sectionKind) :
    file = file' := by
  obtain ⟨profiles, services, sessions⟩ := file
  obtain ⟨profiles', services', sessions'⟩ := file'
  obtain rfl : profiles = profiles' := h .profile
  obtain rfl : services = services' := h .services
  obtain rfl : sessions = sessions' := h .ssoSession
  rfl

theorem eq_fileOf_of_parse (h : (File.parse kind text).1 = .ok file) :
    file = fileOf kind (sectionsOf (saidIn kind text)) := by
  rw [parse_eq, outcomeOf_eq_ok_iff] at h
  exact h.2.2.symm

/-- **A file is given by its headers and by what is defined under those that count.** -/
theorem eq_of_said (hparse : (File.parse kind text).1 = .ok file)
    (hparse' : (File.parse kind text').1 = .ok file')
    (hheaders : headersOf (saidIn kind text) = headersOf (saidIn kind text'))
    (hsame : ∀ header, Counts kind text header →
      sectionOf (saidIn kind text) header = sectionOf (saidIn kind text') header) :
    file = file' := by
  apply File.eq_of_ofKind
  intro sectionKind
  have hnames : SameNames file file' := by
    rw [eq_fileOf_of_parse hparse, eq_fileOf_of_parse hparse', sectionsOf, sectionsOf, hheaders]
    exact SameNames.foldl_withSection (fun _ => rfl) _ _ _
  have hlookup : ∀ header, Counts kind text header →
      (sectionsOf (saidIn kind text)).lookup header
        = (sectionsOf (saidIn kind text')).lookup header := by
    intro header hcounts
    by_cases hmem : header ∈ headersOf (saidIn kind text)
    · rw [lookup_sectionsOf hmem, lookup_sectionsOf (hheaders ▸ hmem), hsame header hcounts]
    · rw [lookup_sectionsOf_of_not_mem hmem, lookup_sectionsOf_of_not_mem (hheaders ▸ hmem)]
  refine Table.eq_of_get? (hnames sectionKind) ((filed_of_parse hparse).distinct sectionKind) ?_
  intro name
  have hlong : Counts kind text ⟨sectionKind, name, true⟩ := counts_prefixed
  rw [(filed_of_parse hparse).found, (filed_of_parse hparse').found, ← hlookup _ hlong]
  -- the bare header is looked for only if the longer one is not there, and then it counts
  rcases hthere : (sectionsOf (saidIn kind text)).lookup ⟨sectionKind, name, true⟩ with - | s
  · have hbare : Counts kind text ⟨sectionKind, name, false⟩ := by
      refine counts_iff.mpr fun _ hmem => ?_
      rw [lookup_sectionsOf hmem] at hthere
      cases hthere
    rw [hlookup _ hbare]
  · rw [hthere, Option.some_or, Option.some_or]

/-! ### Another value in one line -/

/-- A file depends on what a line defines. -/
def TakesEffect (kind : FileKind) (text : String) (above : List (List Char)) (raw : List Char)
    (below : List (List Char)) : Prop :=
  ∃ header key own nested, isIdentifier key.toList = true ∧ Counts kind text header ∧
    DefinedAt kind header key own nested above raw below

theorem definitionsOf_append_cons_of_ne {other : Header} (h : other ≠ header)
    (said rest : List Statement) (definition : String × String) :
    definitionsOf (said ++ [⟨header, some definition⟩] ++ rest) other
      = definitionsOf said other ++ definitionsOf rest other := by
  rw [definitionsOf_append, definitionsOf_append]
  simp [definitionsOf, Ne.symm h]

/-- If nothing below a plain line defines its key again, it is the one that counts. -/
theorem takesEffect_of_not_mem (hplain : isPlain raw = true)
    (hunder : above.foldl (headerBelow kind) none = some header)
    (hidentifier : isIdentifier (ownProperty raw).1 = true) (hcounts : Counts kind text header)
    (hfresh : String.ofList (ownProperty raw).1
      ∉ (definitionsOf (statements kind (some header) below) header).map Prod.fst) :
    TakesEffect kind text above raw below := by
  have hlegal : isIdentifier (String.ofList (ownProperty raw).1).toList = true := by
    rwa [String.toList_ofList]
  refine ⟨header, _, _, _, hlegal, hcounts, definedAt_of_forall_ne hplain hunder hidentifier ?_⟩
  intro pair hpair heq
  exact hfresh (List.mem_map.mpr ⟨pair, hpair, heq⟩)

/-- Which headers count is not told from plain lines. -/
theorem Counts.of_replaced {raw' : List Char} (h : Counts kind text header)
    (hlines : Text.lines text.toList = above ++ raw :: below)
    (hlines' : Text.lines text'.toList = above ++ raw' :: below) (hplain' : isPlain raw' = true) :
    Counts kind text' header := by
  intro hbare line hline hheader
  rw [hlines'] at hline
  apply h hbare line _ hheader
  rw [hlines]
  rcases List.mem_append.mp hline with habove | hbelow
  · exact List.mem_append_left _ habove
  · rcases List.mem_cons.mp hbelow with rfl | hbelow
    · rw [isHeader_of_isPlain hplain'] at hheader
      cases hheader
    · exact List.mem_append_right _ (List.mem_cons_of_mem raw hbelow)

section Replaced

variable {raw' : List Char} (hparse : (File.parse kind text).1 = .ok file)
  (hparse' : (File.parse kind text').1 = .ok file')
  (hlines : Text.lines text.toList = above ++ raw :: below)
  (hlines' : Text.lines text'.toList = above ++ raw' :: below)
  (hplain : isPlain raw = true) (hplain' : isPlain raw' = true)
  (hkey : (ownProperty raw).1 = (ownProperty raw').1)
include hparse hparse' hlines hlines' hplain hplain' hkey

/-- What a line defines does not matter if it takes no effect. -/
theorem eq_of_not_takesEffect (hnot : ¬TakesEffect kind text above raw below) : file = file' := by
  have hsaid := @saidIn_of_plain kind raw above below text hlines hplain
  have hsaid' := @saidIn_of_plain kind raw' above below text' hlines' hplain'
  have hsilent : saidIn kind text = saidIn kind text' → file = file' := fun hsame =>
    eq_of_said hparse hparse' (congrArg headersOf hsame) fun header _ =>
      congrArg (sectionOf · header) hsame
  rcases hcurrent : above.foldl (headerBelow kind) none with - | header
  · apply hsilent
    rw [hsaid, hsaid', hcurrent]
    rfl
  rw [hcurrent, Option.bind_some] at hsaid hsaid'
  by_cases hidentifier : isIdentifier (ownProperty raw).1 = true
  · rw [definition?, if_pos hidentifier] at hsaid
    rw [definition?, ← hkey, if_pos hidentifier] at hsaid'
    apply eq_of_said hparse hparse'
    · rw [hsaid, hsaid']
      simp [headersOf]
    · intro other hcounts
      rw [sectionOf, sectionOf, hsaid, hsaid']
      by_cases hother : other = header
      · subst hother
        -- where the header counts, the key is defined once more further down
        have hagain := not_imp_comm.mp
          (takesEffect_of_not_mem hplain hcurrent hidentifier hcounts) hnot
        rw [Option.map_some, Option.map_some, Option.toList_some, Option.toList_some,
          definitionsOf_append_cons, definitionsOf_append_cons,
          Table.ofList_append_cons_congr hagain]
      · rw [Option.map_some, Option.map_some, Option.toList_some, Option.toList_some,
          definitionsOf_append_cons_of_ne hother, definitionsOf_append_cons_of_ne hother]
  · apply hsilent
    rw [hsaid, hsaid', definition?, definition?, ← hkey, if_neg hidentifier, if_neg hidentifier]

omit hplain in
/-- If it does take effect, another value is another file. -/
theorem own_eq_of_takesEffect (heffect : TakesEffect kind text above raw below)
    (hfile : file = file') : (ownProperty raw).2 = (ownProperty raw').2 := by
  subst hfile
  obtain ⟨header, key, own, nested, hidentifier, hcounts, hat⟩ := heffect
  have hcounts' : Counts kind text' header := hcounts.of_replaced hlines hlines' hplain'
  have hproperty' : ownProperty raw' = (key.toList, (ownProperty raw').2) := by
    have hname : (ownProperty raw).1 = key.toList := congrArg Prod.fst hat.property
    rw [← hname, hkey]
  have hat' : DefinedAt kind header key (ownProperty raw').2 nested above raw' below :=
    { hat with plain := hplain', property := hproperty' }
  obtain ⟨s, hs, hvalue⟩ :=
    exists_get?_of_defines hparse ⟨above, raw, below, hlines, hat⟩ hidentifier hcounts
  obtain ⟨s', hs', hvalue'⟩ :=
    exists_get?_of_defines hparse' ⟨above, raw', below, hlines', hat'⟩ hidentifier hcounts'
  rw [hs] at hs'
  obtain rfl := Option.some.inj hs'
  rw [hvalue] at hvalue'
  have hlist := String.ofList_injective (Option.some.inj hvalue')
  have hown : (ownProperty raw).2 = own := congrArg Prod.snd hat.property
  rw [hown]
  rcases nested with - | ⟨next, nested⟩
  · simpa using hlist
  · rw [List.intercalate_cons_cons, List.intercalate_cons_cons] at hlist
    exact List.append_cancel_right (List.append_cancel_right hlist)

/-- **To write another value in one line changes a file exactly if the line takes effect.** -/
theorem eq_iff_of_replaced :
    file = file' ↔
      (TakesEffect kind text above raw below → (ownProperty raw).2 = (ownProperty raw').2) := by
  constructor
  · intro hfile heffect
    exact own_eq_of_takesEffect hparse hparse' hlines hlines' hplain' hkey heffect hfile
  · intro hsame
    by_cases heffect : TakesEffect kind text above raw below
    · -- with the same key and the same value the line says the same
      have hproperty : ownProperty raw = ownProperty raw' := Prod.ext hkey (hsame heffect)
      have hsaid : saidIn kind text = saidIn kind text' := by
        rw [saidIn_of_plain hlines hplain, saidIn_of_plain hlines' hplain', definition?,
          definition?, hproperty]
      rw [eq_fileOf_of_parse hparse, eq_fileOf_of_parse hparse', hsaid]
    · exact eq_of_not_takesEffect hparse hparse' hlines hlines' hplain hplain' hkey heffect

end Replaced

end AwsSigning.SharedConfig
