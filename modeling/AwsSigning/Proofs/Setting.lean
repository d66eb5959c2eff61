/-
AwsSigning/Proofs/Setting.lean

The text that decides a setting.

A setting may have a text in three places, and the first place that has one
decides (`Setting.Decides`): what the text spells is the value, and a text that
cannot be read is a failure that names the place.  What stands in lower places
is never looked at,

    Decides s p profile? place text  →
      s.resolve p profile? = s.read text, up to the name of the place in a failure

and the default counts only where all places are empty.  So a setting whose
deciding text is misspelt has no value, whatever the other places say
(`Setting.Misspelt`).
-/
import AwsSigning.Setting

namespace AwsSigning.Setting

variable {α : Type} {s : Setting α} {p p' : Platform} {profile? profile?' : Option Section}
  {text : String}

/-! ### Places -/

/-- Where a setting may have a text. -/
inductive Place where
  | property
  | environment
  | profile
deriving DecidableEq

/-- How many places come before this one. -/
def Place.rank : Place → Nat
  | property => 0
  | environment => 1
  | profile => 2

variable {place : Place}

/-- The text of a setting in a place. -/
def text? (s : Setting α) (p : Platform) (profile? : Option Section) : Place → Option String
  | .property => p.property? s.property
  | .environment => p.envVariable? s.envVariable
  | .profile => s.profileKey.bind fun key => profile?.bind fun profile => profile.get? key

/-- What a failure calls a place. -/
def placeName (s : Setting α) (profile? : Option Section) : Place → String
  | .property => "property: " ++ s.property
  | .environment => "env: " ++ s.envVariable
  | .profile =>
    "profile " ++ (profile?.map (·.name)).getD "" ++ ": " ++ s.profileKey.getD ""

/-- What is found in a place. -/
def foundIn (s : Setting α) (p : Platform) (profile? : Option Section) (place : Place) : Found :=
  (s.text? p profile? place).map (·, s.placeName profile? place)

theorem inProfile_eq (s : Setting α) (p : Platform) (profile? : Option Section) :
    s.inProfile profile? = s.foundIn p profile? .profile := by
  unfold inProfile foundIn text? placeName
  rcases s.profileKey with - | key
  · rfl
  rcases profile? with - | profile
  · rfl
  · change (profile.get? key).bind _ = (profile.get? key).map _
    rcases profile.get? key with - | text <;> rfl

theorem find_eq (s : Setting α) (p : Platform) (profile? : Option Section) :
    s.find p profile? = firstOf
      [s.foundIn p profile? .property, s.foundIn p profile? .environment,
        s.foundIn p profile? .profile] := by
  rw [find, s.inProfile_eq p]
  rfl

/-! ### The deciding text -/

/-- The text stands in this place, and none stands in a place before it. -/
structure Decides (s : Setting α) (p : Platform) (profile? : Option Section) (place : Place)
    (text : String) : Prop where
  here : s.text? p profile? place = some text
  before : ∀ other : Place, other.rank < place.rank → s.text? p profile? other = none

/-- No place has a text. -/
def IsUnset (s : Setting α) (p : Platform) (profile? : Option Section) : Prop :=
  ∀ place, s.text? p profile? place = none

/-- A place that has no text is passed over. -/
theorem foundIn_eq_none (h : s.text? p profile? place = none) :
    s.foundIn p profile? place = none := by
  rw [foundIn, h]
  rfl

theorem Decides.find_eq (h : s.Decides p profile? place text) :
    s.find p profile? = some (text, s.placeName profile? place) := by
  have hhere : s.foundIn p profile? place = some (text, s.placeName profile? place) := by
    rw [foundIn, h.here]
    rfl
  rw [s.find_eq, firstOf]
  cases place with
  | property => simp [hhere]
  | environment =>
    have hproperty := foundIn_eq_none (h.before .property (by decide))
    simp [hproperty, hhere]
  | profile =>
    have hproperty := foundIn_eq_none (h.before .property (by decide))
    have henvironment := foundIn_eq_none (h.before .environment (by decide))
    simp [hproperty, henvironment, hhere]

/-- **The deciding text is read, and a failure names its place.** -/
theorem Decides.resolve_eq (h : s.Decides p profile? place text) :
    s.resolve p profile? =
      match s.read text with
      | .ok value => .ok (some value)
      | .error e => .error { e with context := e.context ++ [s.placeName profile? place] } := by
  rw [resolve, h.find_eq]
  rfl

/-- **Without any text the default counts.** -/
theorem IsUnset.resolve_eq (h : s.IsUnset p profile?) : s.resolve p profile? = .ok s.default := by
  have hnone : s.find p profile? = none := by
    rw [s.find_eq, firstOf]
    simp [foundIn_eq_none (h .property), foundIn_eq_none (h .environment),
      foundIn_eq_none (h .profile)]
  rw [resolve, hnone]

/-- A property decides. -/
theorem decides_property (h : s.text? p profile? .property = some text) :
    s.Decides p profile? .property text :=
  ⟨h, fun _ hrank => absurd hrank (Nat.not_lt_zero _)⟩

/-- A variable decides if there is no property. -/
theorem decides_environment (hproperty : s.text? p profile? .property = none)
    (h : s.text? p profile? .environment = some text) :
    s.Decides p profile? .environment text := by
  refine ⟨h, fun other hrank => ?_⟩
  cases other with
  | property => exact hproperty
  | environment | profile => exact absurd hrank (by decide)

/-- A profile decides if there is nothing else. -/
theorem decides_profile (hproperty : s.text? p profile? .property = none)
    (henvironment : s.text? p profile? .environment = none)
    (h : s.text? p profile? .profile = some text) : s.Decides p profile? .profile text := by
  refine ⟨h, fun other hrank => ?_⟩
  cases other with
  | property => exact hproperty
  | environment => exact henvironment
  | profile => exact absurd hrank (Nat.lt_irrefl _)

/-- There is a deciding text, or none at all. -/
theorem decides_or_isUnset (s : Setting α) (p : Platform) (profile? : Option Section) :
    (∃ place text, s.Decides p profile? place text) ∨ s.IsUnset p profile? := by
  rcases hproperty : s.text? p profile? .property with - | text
  · rcases henvironment : s.text? p profile? .environment with - | text
    · rcases hprofile : s.text? p profile? .profile with - | text
      · refine .inr fun place => ?_
        cases place <;> assumption
      · exact .inl ⟨.profile, text, decides_profile hproperty henvironment hprofile⟩
    · exact .inl ⟨.environment, text, decides_environment hproperty henvironment⟩
  · exact .inl ⟨.property, text, decides_property hproperty⟩

/-- A value that is found is the default, or some text spells it. -/
theorem exists_read_of_resolve {value : α} (h : s.resolve p profile? = .ok (some value)) :
    s.default = some value ∨ ∃ text, s.read text = .ok value := by
  obtain ⟨place, text, hdecides⟩ | hunset := s.decides_or_isUnset p profile?
  · rw [hdecides.resolve_eq] at h
    rcases hread : s.read text with e | found
    · rw [hread] at h
      cases h
    · rw [hread] at h
      cases h
      exact .inr ⟨text, hread⟩
  · rw [hunset.resolve_eq] at h
    exact .inl (Except.ok.inj h)

/-- A setting whose deciding text can be read has the value that the text spells. -/
theorem Decides.resolve_of_read {value : α} (h : s.Decides p profile? place text)
    (hread : s.read text = .ok value) : s.resolve p profile? = .ok (some value) := by
  rw [h.resolve_eq, hread]

/-- A setting whose deciding text cannot be read fails for the reason of the text. -/
theorem Decides.exists_error {e : Error} (h : s.Decides p profile? place text)
    (hread : s.read text = .error e) :
    ∃ e', s.resolve p profile? = .error e' ∧ e'.kind = e.kind := by
  refine ⟨{ e with context := e.context ++ [s.placeName profile? place] }, ?_, rfl⟩
  rw [h.resolve_eq, hread]

/-- **What stands in lower places does not matter.** -/
theorem Decides.resolve_eq_of_same (h : s.Decides p profile? place text)
    (hsame : ∀ other : Place, other.rank ≤ place.rank →
      s.text? p' profile?' other = s.text? p profile? other)
    (hname : s.placeName profile?' place = s.placeName profile? place) :
    s.resolve p' profile?' = s.resolve p profile? := by
  have h' : s.Decides p' profile?' place text := by
    refine ⟨(hsame place (Nat.le_refl _)).trans h.here, fun other hrank => ?_⟩
    exact (hsame other (Nat.le_of_lt hrank)).trans (h.before other hrank)
  rw [h.resolve_eq, h'.resolve_eq, hname]

/-- The deciding text spells no value. -/
def Misspelt (s : Setting α) (p : Platform) (profile? : Option Section) : Prop :=
  ∃ place text e, s.Decides p profile? place text ∧ s.read text = .error e

/-- A misspelt setting has no value, not even the default. -/
theorem Misspelt.resolve_ne_ok (h : s.Misspelt p profile?) (value? : Option α) :
    s.resolve p profile? ≠ .ok value? := by
  obtain ⟨place, text, e, hdecides, hread⟩ := h
  rw [hdecides.resolve_eq, hread]
  rintro ⟨⟩

/-- A setting that is not misspelt has a value or none. -/
theorem exists_resolve_of_not_misspelt (h : ¬s.Misspelt p profile?) :
    ∃ value?, s.resolve p profile? = .ok value? := by
  obtain ⟨place, text, hdecides⟩ | hunset := s.decides_or_isUnset p profile?
  · rcases hread : s.read text with e | value
    · exact absurd ⟨place, text, e, hdecides, hread⟩ h
    · exact ⟨some value, hdecides.resolve_of_read hread⟩
  · exact ⟨_, hunset.resolve_eq⟩

end AwsSigning.Setting
