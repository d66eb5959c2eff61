/-
AwsSigning/Proofs/SharedConfig/Document.lean

What a configuration file says, and how it is written down.

A *document* is a list of entries, each a heading with its properties.  The
types carry what the format asks for: names and keys are identifiers, texts
are trimmed and fit on one line, and a property with no value of its own has
nothing but sub-properties below it.  So every document can be written, line
by line, and blank lines and comments may stand anywhere between the lines
(`Spells`).

What a document means is said without reading it (`Means`).  There is one
section for each kind and name.  Its keys stand in the order in which they
were first defined, in whatever entry that was, and the last definition of a
key counts (`Keeps`).  Two headings can be about one section only in a config
file, `[default]` and `[profile default]`; then nothing but the latter counts
(`header?`).
-/
import Mathlib.Data.List.Induction
import AwsSigning.Proofs.SharedConfig.Folding
import AwsSigning.Proofs.Text.Blank
import AwsSigning.SharedConfig.File

namespace AwsSigning.SharedConfig

variable {kind : FileKind}

/-! ### Documents -/

/-- The heading of an entry, as either kind of file has it. -/
inductive Heading : FileKind → Type
  /-- The word `default` alone. -/
  | default : Heading .config
  /-- A word for a kind, and a name. -/
  | prefixed (kind : SectionKind) (name : List Char) (legal : isIdentifier name = true) :
      Heading .config
  /-- The name of a profile. -/
  | bare (name : List Char) (legal : isIdentifier name = true) : Heading .credentials

/-- A line below a property that belongs to it. -/
structure Continuation where
  indent : List Char
  text : List Char
  indented : indent ≠ []
  blank : Text.isBlankText indent = true
  nonempty : text ≠ []
  trimmed : Text.trim text = text
  oneLine : '\n' ∉ indent ++ text

/-- No comment starts in a value: none of its marks stands behind white space of ASCII.  A mark that
comes first starts no comment either. -/
def Uncommented (value : List Char) : Prop :=
  value.IsChain fun before c => Text.isAsciiBlank before = true → c ≠ '#' ∧ c ≠ ';'

instance : DecidablePred Uncommented :=
  fun value => inferInstanceAs (Decidable (value.IsChain
    fun before c => Text.isAsciiBlank before = true → c ≠ '#' ∧ c ≠ ';'))

/-- A property with the lines that belong to it. -/
structure Property where
  key : List Char
  value : List Char
  continuations : List Continuation
  identifier : isIdentifier key = true
  trimmed : Text.trim value = value
  oneLine : '\n' ∉ value
  uncommented : Uncommented value
  /-- Below a property with no value of its own there are sub-properties. -/
  block : value = [] → ∀ c ∈ continuations, '=' ∈ c.text ∧ c.text.head? ≠ some '='

/-- A heading with the properties below it. -/
structure Entry (kind : FileKind) where
  heading : Heading kind
  properties : List Property

/-- A file of a kind. -/
abbrev Document (kind : FileKind) := List (Entry kind)

/-! ### How it is written -/

/-- The word for a kind of sections. -/
def SectionKind.word : SectionKind → List Char
  | .profile => "profile".toList
  | .services => "services".toList
  | .ssoSession => "sso-session".toList

/-- What stands between the brackets. -/
def Heading.inner : Heading kind → List Char
  | .default => "default".toList
  | .prefixed kind name _ => kind.word ++ ' ' :: name
  | .bare name _ => name

def Heading.line (h : Heading kind) : List Char := '[' :: h.inner ++ [']']

def Continuation.line (c : Continuation) : List Char := c.indent ++ c.text

/-- The first line of a property. -/
def Property.first (p : Property) : List Char := p.key ++ ' ' :: '=' :: ' ' :: p.value

def Property.lines (p : Property) : List (List Char) :=
  p.first :: p.continuations.map Continuation.line

def Entry.lines (e : Entry kind) : List (List Char) :=
  e.heading.line :: e.properties.flatMap Property.lines

/-- Lines with blank lines and comments between them. -/
inductive LaidOut : List (List Char) → List (List Char) → Prop
  | done : LaidOut [] []
  | line (line : List Char) {lines written} (h : LaidOut lines written) :
      LaidOut (line :: lines) (line :: written)
  | skip {line : List Char} {lines written} (hskip : isSkipped line = true)
      (hline : '\n' ∉ line) (h : LaidOut lines written) : LaidOut (line :: lines) written

/-- A text spells a document.  Whether a line feed stands behind the last line makes no
difference, as nothing behind it is one more blank line. -/
def Spells (text : String) (doc : Document kind) : Prop :=
  ∃ lines, LaidOut lines (doc.flatMap Entry.lines) ∧ text.toList = List.intercalate ['\n'] lines

/-! ### What it means -/

/-- What a heading is about. -/
def Heading.header : Heading kind → Header
  | .default => ⟨.profile, "default", false⟩
  | .prefixed kind name _ => ⟨kind, String.ofList name, true⟩
  | .bare name _ => ⟨.profile, String.ofList name, false⟩

/-- The value of a property: its own, and below it the lines that belong to it. -/
def Property.text (p : Property) : String :=
  String.ofList (List.intercalate ['\n'] (p.value :: p.continuations.map Continuation.text))

/-- The key that is defined, and its value. -/
def Property.definition (p : Property) : String × String := (String.ofList p.key, p.text)

namespace Document

/-- What is defined under a header, in all entries that have it. -/
def definitions (doc : Document kind) (header : Header) : List (String × String) :=
  (doc.filter (·.heading.header = header)).flatMap fun e => e.properties.map Property.definition

/-- The headers of the entries. -/
def headers (doc : Document kind) : List Header := doc.map (·.heading.header)

/-- The header whose definitions make the section of a kind and name. -/
def header? (doc : Document kind) (sectionKind : SectionKind) (name : String) : Option Header :=
  if ⟨sectionKind, name, true⟩ ∈ doc.headers then some ⟨sectionKind, name, true⟩
  else if ⟨sectionKind, name, false⟩ ∈ doc.headers then some ⟨sectionKind, name, false⟩
  else none

end Document

/-- A table keeps the last definition of each key, in the order of the first ones. -/
structure Keeps (table : Table String) (definitions : List (String × String)) : Prop where
  keys : table.map Prod.fst = (definitions.map Prod.fst).eraseDups
  values : ∀ key, table.get? key = definitions.reverse.lookup key

/-- A file holds what a document says. -/
structure Means (doc : Document kind) (file : File) : Prop where
  /-- There is one section to a kind and name. -/
  distinct : ∀ sectionKind, ((file.ofKind sectionKind).map Prod.fst).Nodup
  sections : ∀ sectionKind name,
    match doc.header? sectionKind name with
    | none => (file.ofKind sectionKind).get? name = none
    | some header => ∃ s, (file.ofKind sectionKind).get? name = some s ∧ s.name = name ∧
        Keeps s.properties (doc.definitions header)

/-! ### Identifiers -/

theorem isVisible_of_isIdentifierChar {c : Char} (h : isIdentifierChar c = true) :
    0x20 < c.toNat ∧ c.toNat < 0x7F := by
  rw [isIdentifierChar, Bool.or_eq_true] at h
  rcases h with halnum | hmark
  · have hrange := Text.toNat_of_isAlphanum halnum
    omega
  · have hall : "_-/.%@:+".toList.all (fun c => 0x20 < c.toNat && c.toNat < 0x7F) = true := by
      decide
    have hc := List.all_eq_true.mp hall c (List.contains_iff_mem.mp hmark)
    rwa [Bool.and_eq_true, decide_eq_true_eq, decide_eq_true_eq] at hc

section Identifier

variable {s : List Char}

theorem ne_nil_of_isIdentifier (h : isIdentifier s = true) : s ≠ [] := by
  rw [isIdentifier, Bool.and_eq_true, decide_eq_true_eq] at h
  exact h.1

theorem isIdentifierChar_of_mem (h : isIdentifier s = true) :
    ∀ c ∈ s, isIdentifierChar c = true := by
  rw [isIdentifier, Bool.and_eq_true] at h
  exact List.all_eq_true.mp h.2

theorem isBlank_of_isIdentifier (h : isIdentifier s = true) : ∀ c ∈ s, Text.isBlank c = false := by
  intro c hc
  obtain ⟨hlow, hhigh⟩ := isVisible_of_isIdentifierChar (isIdentifierChar_of_mem h c hc)
  exact Text.isBlank_of_visible hlow hhigh

/-- A mark that identifiers are not made of does not occur in one. -/
theorem not_mem_of_isIdentifier {mark : Char} (h : isIdentifier s = true)
    (hmark : isIdentifierChar mark = false) : mark ∉ s := by
  intro hmem
  rw [isIdentifierChar_of_mem h mark hmem] at hmark
  cases hmark

end Identifier

/-! ### Lines of a document -/

/-- A line ends in a character that is no white space, if something trimmed stands at its end. -/
theorem dropLineEnd_append {s : List Char} (h : Text.trim s = s) (hne : s ≠ [])
    (front : List Char) :
    Text.dropLineEnd (front ++ s) = front ++ s := by
  apply Text.dropLineEnd_of_getLast?
  have hlast := Text.trimEnd_eq_self_iff.mp (Text.trim_eq_self_iff.mp h).2
  rw [List.getLast?_append, List.getLast?_eq_some_getLast hne, Option.some_or]
  intro hend
  have hblank : Text.isBlank '\r' = false := by
    rw [← Option.some.inj hend]
    exact hlast _ (List.getLast?_eq_some_getLast hne)
  exact absurd hblank (by decide)

/-- A line that starts with another character is no comment. -/
theorem isComment_cons {c : Char} {rest : List Char} (hhash : c ≠ '#') (hsemicolon : c ≠ ';') :
    isComment (c :: rest) = false := by
  rw [isComment, Bool.or_eq_false_iff, decide_eq_false_iff_not, decide_eq_false_iff_not]
  exact ⟨hhash, hsemicolon⟩

namespace Heading

variable (h : Heading kind)

theorem isHeader_line : isHeader h.line = true := rfl

theorem word_isIdentifier (kind : SectionKind) : isIdentifier kind.word = true := by
  cases kind <;> decide

theorem newline_not_mem_line : '\n' ∉ h.line := by
  have hinner : '\n' ∉ h.inner := by
    cases h with
    | default => decide
    | prefixed kind name legal =>
      have hword : '\n' ∉ kind.word := not_mem_of_isIdentifier (word_isIdentifier kind) (by decide)
      have hname : '\n' ∉ name := not_mem_of_isIdentifier legal (by decide)
      show '\n' ∉ kind.word ++ ' ' :: name
      simp [hword, hname]
    | bare name legal => exact not_mem_of_isIdentifier legal (by decide)
  simp [line, hinner]

theorem dropLineEnd_line : Text.dropLineEnd h.line = h.line :=
  dropLineEnd_append (s := [']']) (by decide) (by simp) ('[' :: h.inner)

end Heading

namespace Continuation

variable (c : Continuation)

theorem trim_line : Text.trim c.line = c.text :=
  Text.trim_append_left c.blank c.trimmed

theorem isFolded_line : isFolded c.line = true := by
  obtain ⟨b, indent, hindent⟩ := List.exists_cons_of_ne_nil c.indented
  have hblank : Text.isBlank b = true := by
    have hall := c.blank
    rw [hindent, Text.isBlankText, List.all_cons, Bool.and_eq_true] at hall
    exact hall.1
  have hline : c.line = b :: (indent ++ c.text) := by rw [line, hindent, List.cons_append]
  have hmark : ∀ mark, Text.isBlank mark = false → b ≠ mark := by
    rintro mark hmark rfl
    rw [hblank] at hmark
    cases hmark
  have hcomment : isComment c.line = false := by
    rw [hline]
    exact isComment_cons (hmark '#' (by decide)) (hmark ';' (by decide))
  -- what is trimmed and not empty is not blank, and so neither is the line
  have hvisible : Text.isBlankText c.line = false := by
    apply Bool.eq_false_iff.mpr
    intro hall
    rw [line, Text.isBlankText, List.all_append, Bool.and_eq_true] at hall
    exact c.nonempty (Text.eq_nil_of_isBlankText hall.2 c.trimmed)
  have hcontinuation : isContinuation c.line = true := by
    rw [hline]
    exact hblank
  simp [isFolded, isSkipped, hcomment, hvisible, hcontinuation]

theorem isSubProperty_line (hmark : '=' ∈ c.text) (hfront : c.text.head? ≠ some '=') :
    isSubProperty c.line = true := by
  have hmem : '=' ∈ c.line := List.mem_append_right c.indent hmark
  rw [isSubProperty, c.trim_line]
  simp [hmem, hfront]

theorem dropLineEnd_line : Text.dropLineEnd c.line = c.line :=
  dropLineEnd_append c.trimmed c.nonempty c.indent

end Continuation

namespace Property

variable (p : Property)

theorem newline_not_mem_first : '\n' ∉ p.first := by
  have hkey : '\n' ∉ p.key := not_mem_of_isIdentifier p.identifier (by decide)
  simp [first, hkey, p.oneLine]

theorem dropLineEnd_first : Text.dropLineEnd p.first = p.first := by
  by_cases hvalue : p.value = []
  · -- then the line ends in the space behind the mark
    apply Text.dropLineEnd_of_getLast?
    simp [first, hvalue]
  · have hfirst : p.first = (p.key ++ [' ', '=', ' ']) ++ p.value := by simp [first]
    rw [hfirst]
    exact dropLineEnd_append p.trimmed hvalue _

/-- A property opens a logical line. -/
theorem isPlain_first : isPlain p.first = true := by
  obtain ⟨c, key, hkey⟩ := List.exists_cons_of_ne_nil (ne_nil_of_isIdentifier p.identifier)
  have hmem : c ∈ p.key := hkey ▸ List.mem_cons_self
  have hblank : Text.isBlank c = false := isBlank_of_isIdentifier p.identifier c hmem
  have hmark : ∀ mark, isIdentifierChar mark = false → c ≠ mark := by
    rintro mark hmark rfl
    exact not_mem_of_isIdentifier p.identifier hmark hmem
  have hfirst : p.first = c :: (key ++ ' ' :: '=' :: ' ' :: p.value) := by
    rw [first, hkey, List.cons_append]
  have hcomment : isComment p.first = false := by
    rw [hfirst]
    exact isComment_cons (hmark '#' (by decide)) (hmark ';' (by decide))
  have hvisible : Text.isBlankText p.first = false := by
    rw [hfirst, Text.isBlankText, List.all_cons, hblank, Bool.false_and]
  have hheader : isHeader p.first = false := by
    rw [hfirst]
    exact decide_eq_false (hmark '[' (by decide))
  have hcontinuation : isContinuation p.first = false := by
    rw [hfirst]
    exact hblank
  simp [isPlain, isSkipped, hcomment, hvisible, hheader, hcontinuation]

theorem splitFirst?_first :
    Text.splitFirst? '=' p.first = some (p.key ++ [' '], ' ' :: p.value) := by
  have hkey : '=' ∉ p.key := not_mem_of_isIdentifier p.identifier (by decide)
  have hfirst : p.first = (p.key ++ [' ']) ++ '=' :: ' ' :: p.value := by simp [first]
  rw [hfirst]
  exact Text.splitFirst?_append (by simp [hkey])

/-- The value is blank only if there is none. -/
theorem blankValue_first : blankValue p.first = true ↔ p.value = [] := by
  rw [blankValue, p.splitFirst?_first]
  constructor
  · intro hblank
    have hall : Text.isBlankText (' ' :: p.value) = true := hblank
    rw [Text.isBlankText, List.all_cons, Bool.and_eq_true] at hall
    exact Text.eq_nil_of_isBlankText hall.2 p.trimmed
  · intro hvalue
    rw [hvalue]
    rfl

end Property

end AwsSigning.SharedConfig
