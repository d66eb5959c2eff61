/-
AwsSigning/Proofs/Platform.lean

Platforms between which nothing can be told apart.

Settings are looked up among properties and variables only, so they are the
same on platforms on which these are (`Platform.SameSettings`).  All other
lookups are the same on platforms that differ at most in what was written
down, the warnings and the requests sent (`Platform.Alike`).  No operation
reads what was written down, and none changes a property or a variable; so
operations on platforms that are alike stay in lockstep, and the settings are
what they were in the beginning.

Loading the shared configuration and asking the metadata service look at a few
names only (`Platform.ambientVariables`, `Platform.ambientProperties`).  All
they need of two platforms to stay in lockstep is that these agree there, on
the clock, on the files and on the replies to come (`Platform.Agreement`).
-/
import AwsSigning.Proofs.Lockstep
import AwsSigning.Setting.Catalog

namespace AwsSigning

namespace Platform

/-- The properties and the environment variables are the same. -/
structure SameSettings (p p' : Platform) : Prop where
  environment : p.environment = p'.environment
  properties : p.properties = p'.properties

theorem SameSettings.refl (p : Platform) : SameSettings p p := ⟨rfl, rfl⟩

theorem SameSettings.symm {p p' : Platform} (h : SameSettings p p') : SameSettings p' p :=
  ⟨h.environment.symm, h.properties.symm⟩

theorem SameSettings.trans {p p' p'' : Platform} (h : SameSettings p p')
    (h' : SameSettings p' p'') : SameSettings p p'' :=
  ⟨h.environment.trans h'.environment, h.properties.trans h'.properties⟩

/-- Two platforms differ at most in what was written down, and the settings on them are those of an
earlier platform. -/
structure Alike (origin p p' : Platform) : Prop where
  now : p.now = p'.now
  systemHome : p.systemHome = p'.systemHome
  files : p.files = p'.files
  replies : p.replies = p'.replies
  environment : origin.environment = p.environment
  environment' : origin.environment = p'.environment
  properties : origin.properties = p.properties
  properties' : origin.properties = p'.properties

variable {origin p p' : Platform}

theorem Alike.refl (h : SameSettings origin p) : Alike origin p p where
  now := rfl
  systemHome := rfl
  files := rfl
  replies := rfl
  environment := h.environment
  environment' := h.environment
  properties := h.properties
  properties' := h.properties

theorem Alike.settings (h : Alike origin p p') : SameSettings origin p :=
  ⟨h.environment, h.properties⟩

theorem Alike.settings' (h : Alike origin p p') : SameSettings origin p' :=
  ⟨h.environment', h.properties'⟩

/-- Platforms that are alike have the settings in common. -/
theorem Alike.same (h : Alike origin p p') : SameSettings p p' := h.settings.symm.trans h.settings'

/-! ### Writing down -/

/-- At most one warning more was given. -/
def Warned (p q : Platform) : Prop := q = p ∨ ∃ text, q = p.warn text

theorem Alike.warned {q q' : Platform} (h : Alike origin p p') (hq : p.Warned q)
    (hq' : p'.Warned q') : Alike origin q q' := by
  rcases hq with rfl | ⟨text, rfl⟩ <;> rcases hq' with rfl | ⟨text', rfl⟩ <;> exact { h with }

/-- The same request gets the same reply. -/
theorem lockstep_send (request : Outgoing) :
    (send request).Lockstep (Alike origin) Eq (send request) := by
  intro p p' h
  have hreplies := h.replies
  rcases hp : p.replies with - | - | ⟨reply, rest⟩
  all_goals
    rw [hp] at hreplies
    simp only [send, Operation.outcome_of, hp, ← hreplies]
  · exact ⟨.error _, h⟩
  · exact ⟨.error _, { h with replies := rfl }⟩
  · exact ⟨.refl (fun _ => rfl) reply, { h with replies := rfl }⟩

/-! ### Agreement -/

/-- The variables that loading and the metadata service depend on. -/
def ambientVariables : List String :=
  ["HOME", Setting.profile.envVariable, Setting.configFile.envVariable,
    Setting.credentialsFile.envVariable, Setting.metadataDisabled.envVariable,
    Setting.metadataEndpoint.envVariable]

/-- The properties that they depend on. -/
def ambientProperties : List String :=
  ["user.home", Setting.profile.property, Setting.configFile.property,
    Setting.credentialsFile.property, Setting.metadataDisabled.property,
    Setting.metadataEndpoint.property]

/-- Related platforms agree on all that loading and the metadata service look at, and stay related
when both send a request or give a warning. -/
structure Agreement (R : Platform → Platform → Prop) : Prop where
  now : ∀ {p p'}, R p p' → p.now = p'.now
  systemHome : ∀ {p p'}, R p p' → p.systemHome = p'.systemHome
  files : ∀ {p p'}, R p p' → p.files = p'.files
  environment : ∀ {p p'}, R p p' →
    ∀ name ∈ ambientVariables, p.envVariable? name = p'.envVariable? name
  properties : ∀ {p p'}, R p p' →
    ∀ name ∈ ambientProperties, p.property? name = p'.property? name
  send : ∀ request, (send request).Lockstep R Eq (send request)
  warned : ∀ {p p'} (texts : List String), R p p' →
    R { p with warnings := p.warnings ++ texts } { p' with warnings := p'.warnings ++ texts }

theorem agreement_alike (origin : Platform) : Agreement origin.Alike where
  now h := h.now
  systemHome h := h.systemHome
  files h := h.files
  environment h name _ := by rw [envVariable?, envVariable?, h.same.environment]
  properties h name _ := by rw [property?, property?, h.same.properties]
  send := lockstep_send
  warned _ h := { h with }

/-! ### Looking things up -/

variable {R : Platform → Platform → Prop}

theorem Agreement.home?_eq (hR : Agreement R) (h : R p p') : p.home? = p'.home? := by
  have henv := hR.environment h "HOME" (by simp [ambientVariables])
  have hproperty := hR.properties h "user.home" (by simp [ambientProperties])
  rw [home?, home?, henv, hproperty, hR.systemHome h]

theorem Agreement.expandHome?_eq (hR : Agreement R) (h : R p p') (path : String) :
    p.expandHome? path = p'.expandHome? path := by
  simp only [expandHome?, hR.home?_eq h]

theorem Agreement.fileText_eq (hR : Agreement R) (h : R p p') (path : String) :
    p.fileText path = p'.fileText path := by
  simp only [fileText, fileBytes, hR.files h]

/-! ### Machines -/

/-- A machine without settings, without files and without a network. -/
def bare : Platform where
  now := ⟨0, 0⟩

/-- The machine of a user: there is a home directory, and there are some more variables and some
files. -/
def ofUser (environment : Table String) (files : Table FileState) : Platform :=
  { bare with environment := ("HOME", "/home/dev") :: environment, files := some files }

end Platform

/-! ### Settings -/

namespace Setting

variable {α : Type} {p p' : Platform}

/-- **A setting is looked up under its own names only.** -/
theorem resolve_eq_of_names (s : Setting α)
    (hvariable : p.envVariable? s.envVariable = p'.envVariable? s.envVariable)
    (hproperty : p.property? s.property = p'.property? s.property) (profile? : Option Section) :
    s.resolve p profile? = s.resolve p' profile? := by
  simp only [resolve, find, inProperty, inVariable, hvariable, hproperty]

/-- **A setting is looked up among properties and variables only.** -/
theorem resolve_eq (s : Setting α) (h : p.SameSettings p') (profile? : Option Section) :
    s.resolve p profile? = s.resolve p' profile? := by
  apply s.resolve_eq_of_names
  · rw [Platform.envVariable?, Platform.envVariable?, h.environment]
  · rw [Platform.property?, Platform.property?, h.properties]

theorem resolveFromProcess_eq (s : Setting α) (h : p.SameSettings p') :
    s.resolveFromProcess p = s.resolveFromProcess p' :=
  s.resolve_eq h none

/-- Related platforms agree on the settings that loading and the metadata service depend on. -/
theorem resolveFromProcess_eq_of_agreement {R : Platform → Platform → Prop}
    (hR : Platform.Agreement R) (h : R p p') (s : Setting α)
    (hvariable : s.envVariable ∈ Platform.ambientVariables)
    (hproperty : s.property ∈ Platform.ambientProperties) :
    s.resolveFromProcess p = s.resolveFromProcess p' :=
  s.resolve_eq_of_names (hR.environment h _ hvariable) (hR.properties h _ hproperty) none

/-- A setting that is read as the text it is always has a value or none. -/
theorem exists_resolve_of_readText {s : Setting String} (h : s.read = readText) (p : Platform)
    (profile? : Option Section) : ∃ text?, s.resolve p profile? = .ok text? := by
  unfold resolve
  split
  · next found _ =>
    obtain ⟨text, place⟩ := found
    refine ⟨some text, ?_⟩
    rw [readFound, h]
    rfl
  · exact ⟨_, rfl⟩

end Setting

end AwsSigning
