/-
AwsSigning/SharedConfig/File.lean

Whole configuration files: logical lines grouped into sections.

Sections with the same header are one section, and a key defined again takes
its new value in its old place, with a warning.  Properties under a header
that is ignored are ignored with it.  `[default]` and `[profile default]` are
different headers until the end of the file; there the latter wins, whichever
comes first.
-/
import AwsSigning.SharedConfig.Header
import AwsSigning.SharedConfig.Section

namespace AwsSigning.SharedConfig

/-! ### Properties -/

/-- The text before a comment that follows ASCII white space; `last` is the character before it. -/
def untilComment (last : Char) : List Char → List Char
  | [] => []
  | c :: rest =>
    if (c = '#' || c = ';') && Text.isAsciiBlank last then [] else c :: untilComment c rest

/-- A trimmed value without the comment behind it. -/
def stripComment (value : List Char) : List Char :=
  match value with
  | [] => []
  | c :: rest => Text.trimEnd (c :: untilComment c rest)

/-- Key and value of a logical line.  Only the value on the first line can be followed by a
comment; folded lines are kept as they are. -/
def propertyOfLine (line : Line) : List Char × String :=
  let (key, value) := (Text.splitFirst? '=' line.first).getD (line.first, [])
  let value := stripComment (Text.trim value)
  (Text.trim key, String.ofList (List.intercalate ['\n'] (value :: line.folded)))

/-! ### Grouping -/

/-- Where a property belongs. -/
inductive Place where
  /-- There has been no header. -/
  | nowhere
  /-- The last header is ignored. -/
  | ignored
  /-- The section with a header. -/
  | under (header : Header)
deriving DecidableEq, Repr

/-- How far grouping has come. -/
structure Grouping where
  /-- The sections so far, in order of their first header. -/
  sections : List (Header × Section) := []
  place : Place := .nowhere
deriving DecidableEq, Repr

/-- The section with a header. -/
def Grouping.section? (state : Grouping) (header : Header) : Option Section :=
  state.sections.lookup header

/-- A header has been read; its section is there from now on. -/
def Grouping.enter (state : Grouping) (header : Header) : Grouping :=
  match state.section? header with
  | some _ => { state with place := .under header }
  | none => ⟨state.sections ++ [(header, { name := header.name })], .under header⟩

/-- A property written to the section with a header. -/
def Grouping.define (state : Grouping) (header : Header) (key value : String) : Grouping :=
  { state with
    sections := state.sections.map fun (h, s) => (h, if h = header then s.set key value else s) }

/-- A property line read under a header. -/
def Grouping.property (state : Grouping) (header : Header) (line : Line) : Reader Grouping := do
  let (key, value) := propertyOfLine line
  let name := String.ofList key
  if !isIdentifier key then
    warn ("Ignoring invalid property '" ++ name ++ "'" ++ atLine line.number)
    pure state
  else
    if ((state.section? header).bind (·.get? name)).isSome then
      warn ("Overwriting previously-defined property '" ++ name ++ "' in profile '"
        ++ header.name ++ "'" ++ atLine line.number)
    pure (state.define header name value)

/-- One more logical line. -/
def Grouping.step (kind : FileKind) (state : Grouping) (line : Line) : Reader Grouping := do
  if isHeader line.first then
    match ← readHeader kind line with
    | some header => pure (state.enter header)
    | none => pure { state with place := .ignored }
  else if !line.content.contains '=' then
    Operation.fail (.config .expectedProperty line.number)
  else
    match state.place with
    | .nowhere => Operation.fail (.config .expectedSection line.number)
    | .ignored => pure state
    | .under header => state.property header line

/-! ### Files -/

/-- The sections of one file, by kind and name. -/
structure File where
  profiles : Table Section := []
  services : Table Section := []
  ssoSessions : Table Section := []
deriving DecidableEq, Repr, Inhabited

namespace File

/-- The sections of a kind. -/
def ofKind (file : File) : SectionKind → Table Section
  | .profile => file.profiles
  | .services => file.services
  | .ssoSession => file.ssoSessions

/-- The file with a section of a kind. -/
def put (file : File) (kind : SectionKind) (name : String) (s : Section) : File :=
  match kind with
  | .profile => { file with profiles := file.profiles.set name s }
  | .services => { file with services := file.services.set name s }
  | .ssoSession => { file with ssoSessions := file.ssoSessions.set name s }

/-- The file with one more section.  In a config file a bare header does not replace a section
that is there already. -/
def add (kind : FileKind) (file : File) (entry : Header × Section) : Reader File := do
  let (header, s) := entry
  let bare := header.kind = .profile ∧ !header.prefixed ∧ kind = .config
  if bare ∧ (file.ofKind header.kind).has header.name then
    warn ("Ignoring '[" ++ header.name ++ "]' in favor of '[profile " ++ header.name ++ "]'")
    pure file
  else pure (file.put header.kind header.name s)

/-- The file that a text spells, with warnings. -/
def read (kind : FileKind) (text : String) : Reader File := do
  let lines ← Operation.ofExcept (foldLines text.toList)
  let grouping ← lines.foldlM (Grouping.step kind) {}
  grouping.sections.foldlM (File.add kind) {}

/-- The file that a text spells, or why it spells none, and the warnings given. -/
def parse (kind : FileKind) (text : String) : Except Error File × List String :=
  (read kind text).outcome []

end File

end AwsSigning.SharedConfig
