/-
AwsSigning/SharedConfig.lean

The configuration that all programs of a user share, read from two files.

Profiles that stand in both files are merged key by key, and the config file
wins.  The active profile is always there: if neither file has it, it is
empty.  Services sections come from the config file alone.  A file that
cannot be read counts as empty; a file that can be read has to be well
formed.
-/
import AwsSigning.Setting.Catalog
import AwsSigning.SharedConfig.File

namespace AwsSigning

/-! ### The record -/

/-- The shared configuration of a user. -/
structure SharedConfig where
  /-- The name of the active profile. -/
  active : String
  /-- Profiles by name. -/
  profiles : Table Section
  /-- Services sections by name. -/
  services : Table Section
deriving DecidableEq, Repr

namespace SharedConfig

/-! ### Merging -/

/-- A profile of the config file written over one of the same name. -/
def overlayProfile (profiles : Table Section) (name : String) (s : Section) : Table Section :=
  match profiles.get? name with
  | some earlier => profiles.set name (earlier.overlay s)
  | none => profiles.set name s

/-- The shared configuration that two files make. -/
def merge (active : String) (config credentials : File) : SharedConfig :=
  let profiles := config.profiles.foldl (fun t (name, s) => overlayProfile t name s)
    credentials.profiles
  let profiles := if profiles.has active then profiles else profiles.set active { name := active }
  { active, profiles, services := config.services }

/-! ### Looking things up -/

/-- A profile by name. -/
def profile? (c : SharedConfig) (name : String) : Option Section := c.profiles.get? name

/-- The active profile. -/
def activeProfile (c : SharedConfig) : Section := (c.profile? c.active).getD { name := c.active }

/-- A services section by name. -/
def services? (c : SharedConfig) (name : String) : Option Section := c.services.get? name

/-- The services section that a profile refers to, if it refers to one. -/
def servicesOf (c : SharedConfig) (profile : Section) : Except Error (Option Section) :=
  match profile.get? "services" with
  | none => .ok none
  | some name =>
    match c.services? name with
    | some s => .ok (some s)
    | none => .error (.setting (.noServices name))

/-! ### Where it is read from -/

/-- The active profile and the paths of the two files. -/
structure Location where
  profile : String
  configFile : String
  credentialsFile : String
deriving DecidableEq, Repr

/-- A path with its `~` replaced. -/
def expandPath (p : Platform) (path : String) : Except Error String :=
  if path.toList.head? = some '~' then
    match p.expandHome? path with
    | some path => .ok path
    | none => .error ((Error.setting .noHome).within ("path: " ++ path))
  else .ok path

/-- Where the configuration is, given the name of a profile or not. -/
def Location.resolve (p : Platform) (profile? : Option String) : Except Error Location := do
  let profile ← match profile? with
    | some profile => pure profile
    | none => do pure ((← Setting.profile.resolveFromProcess p).getD "")
  let configFile := (← Setting.configFile.resolveFromProcess p).getD ""
  let credentialsFile := (← Setting.credentialsFile.resolveFromProcess p).getD ""
  pure {
    profile
    configFile := ← expandPath p configFile
    credentialsFile := ← expandPath p credentialsFile }

/-! ### Loading -/

/-- The file under a path; one that cannot be read is empty. -/
def loadFile (kind : FileKind) (path : String) : Operation Platform File := Operation.of fun p =>
  match p.fileText path with
  | .error _ => (.ok {}, p)
  | .ok text =>
    let (file, warnings) := File.parse kind text
    (file.mapError (·.within ("path: " ++ path)), { p with warnings := p.warnings ++ warnings })

/-- The shared configuration at a place. -/
def loadFrom (place : Location) : Operation Platform SharedConfig := do
  let config ← loadFile .config place.configFile
  let credentials ← loadFile .credentials place.credentialsFile
  pure (merge place.profile config credentials)

/-- The shared configuration, given the name of a profile or not. -/
def load (profile? : Option String) : Operation Platform SharedConfig := do
  let place ← Operation.ofExcept (Location.resolve (← get) profile?)
  loadFrom place

end SharedConfig

end AwsSigning
