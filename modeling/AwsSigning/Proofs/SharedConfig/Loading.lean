/-
AwsSigning/Proofs/SharedConfig/Loading.lean

The shared configuration, loaded again.

Loading looks at some properties, some variables, files and the home directory
only, so it gives the same on platforms that agree on them (`lockstep_load`).
What was loaded names its active profile, and whoever asks for the profile of
that name loads what was loaded without a name, as long as the settings are
the same (`load_active`).

Every section is filed under its own name, in whatever way the files are
written, so the active profile goes by the name that it was asked for
(`name_activeProfile`).
-/
import AwsSigning.Proofs.Platform
import AwsSigning.Proofs.Table
import AwsSigning.SharedConfig

namespace AwsSigning.SharedConfig

open Operation

variable {R : Platform → Platform → Prop} {p p' : Platform} {config : SharedConfig}
  {profile? : Option String}

/-! ### On platforms that agree -/

theorem expandPath_eq (hR : Platform.Agreement R) (h : R p p') (path : String) :
    expandPath p path = expandPath p' path := by
  rw [expandPath, expandPath, hR.expandHome?_eq h]

theorem Location.resolve_eq (hR : Platform.Agreement R) (h : R p p') (profile? : Option String) :
    Location.resolve p profile? = Location.resolve p' profile? := by
  have hprofile := Setting.profile.resolveFromProcess_eq_of_agreement hR h
    (by simp [Platform.ambientVariables]) (by simp [Platform.ambientProperties])
  have hconfig := Setting.configFile.resolveFromProcess_eq_of_agreement hR h
    (by simp [Platform.ambientVariables]) (by simp [Platform.ambientProperties])
  have hcredentials := Setting.credentialsFile.resolveFromProcess_eq_of_agreement hR h
    (by simp [Platform.ambientVariables]) (by simp [Platform.ambientProperties])
  unfold Location.resolve
  simp only [hprofile, hconfig, hcredentials, expandPath_eq hR h]

theorem lockstep_loadFile (hR : Platform.Agreement R) (kind : FileKind) (path : String) :
    (loadFile kind path).Lockstep R Eq (loadFile kind path) := by
  intro p p' h
  simp only [loadFile, outcome_of, hR.fileText_eq h path]
  rcases p'.fileText path with e | text
  · exact ⟨.ok rfl, h⟩
  · exact ⟨.refl (fun _ => rfl) _, hR.warned _ h⟩

/-- **The shared configuration is the same on platforms that agree.** -/
theorem lockstep_load (hR : Platform.Agreement R) (profile? : Option String) :
    (load profile?).Lockstep R Eq (load profile?) := by
  refine Lockstep.get.bind fun p p' h => ?_
  rw [Location.resolve_eq hR h]
  refine (Lockstep.ofExcept_self _).bind_same fun place => ?_
  refine (lockstep_loadFile hR _ _).bind_same fun config => ?_
  refine (lockstep_loadFile hR _ _).bind_same fun credentials => ?_
  exact .pure rfl

/-- Loading changes no setting. -/
theorem sameSettings_of_load (h : (load profile?).outcome p = (.ok config, p')) :
    p.SameSettings p' := by
  obtain ⟨-, hafter⟩ := lockstep_load (Platform.agreement_alike p) profile? p p (.refl (.refl p))
  rw [h] at hafter
  exact hafter.settings

/-! ### Profiles by name -/

/-- **There is a name by which the profile that counts can be asked for**, wherever the settings are
the same. -/
theorem exists_name (p : Platform) (profile? : Option String) :
    ∃ name, ∀ q, p.SameSettings q → (load profile?).outcome q = (load (some name)).outcome q := by
  rcases profile? with - | name
  · -- the setting is text, so there is one, if only an empty one
    obtain ⟨found, hfound⟩ := Setting.exists_resolve_of_readText (s := Setting.profile) rfl p none
    refine ⟨found.getD "", fun q hq => ?_⟩
    have hplace : Location.resolve q none = Location.resolve q (some (found.getD "")) := by
      have hprocess : Setting.profile.resolveFromProcess q = .ok found :=
        (Setting.profile.resolveFromProcess_eq hq).symm.trans hfound
      simp only [Location.resolve, hprocess]
      rfl
    simp only [load, outcome_bind, outcome_get, hplace]
  · exact ⟨name, fun _ _ => rfl⟩

theorem profile_of_resolve {name : String} {place : Location}
    (h : Location.resolve p (some name) = .ok place) : place.profile = name := by
  obtain ⟨_, hname, h⟩ := bind_eq_ok_iff.mp h
  cases hname
  obtain ⟨configFile, -, h⟩ := bind_eq_ok_iff.mp h
  obtain ⟨credentialsFile, -, h⟩ := bind_eq_ok_iff.mp h
  obtain ⟨configPath, -, h⟩ := bind_eq_ok_iff.mp h
  obtain ⟨credentialsPath, -, h⟩ := bind_eq_ok_iff.mp h
  cases h
  rfl

/-- What is loaded by name goes by that name. -/
theorem active_of_load {name : String} (h : (load (some name)).outcome p = (.ok config, p')) :
    config.active = name := by
  obtain ⟨_, _, hget, h⟩ := outcome_bind_eq_ok_iff.mp h
  cases hget
  obtain ⟨place, _, hplace, h⟩ := outcome_bind_eq_ok_iff.mp h
  obtain ⟨hplace, -⟩ := Prod.mk.inj hplace
  obtain ⟨file, _, -, h⟩ := outcome_bind_eq_ok_iff.mp h
  obtain ⟨credentials, _, -, h⟩ := outcome_bind_eq_ok_iff.mp h
  cases h
  exact profile_of_resolve hplace

/-- **Who asks for the active profile by its name loads what was loaded**, wherever the settings are
the same. -/
theorem load_active (h : (load profile?).outcome p = (.ok config, p')) {q : Platform}
    (hq : p.SameSettings q) :
    (load (some config.active)).outcome q = (load profile?).outcome q := by
  obtain ⟨name, hname⟩ := exists_name p profile?
  rw [hname p (.refl p)] at h
  rw [active_of_load h, hname q hq]

/-! ### Sections under their names -/

/-- Every section is filed under its own name. -/
def Named (sections : Table Section) : Prop := ∀ entry ∈ sections, entry.2.name = entry.1

theorem Named.set {sections : Table Section} {name : String} {s : Section} (h : Named sections)
    (hs : s.name = name) : Named (sections.set name s) := by
  intro entry hentry
  rcases Table.mem_set hentry with rfl | hmem
  · exact hs
  · exact h entry hmem

theorem Named.get? {sections : Table Section} {name : String} {s : Section} (h : Named sections)
    (hs : sections.get? name = some s) : s.name = name := by
  obtain ⟨before, after, hsections, -⟩ := List.lookup_eq_some_iff.mp hs
  have hmem : (name, s) ∈ sections := by simp [hsections]
  exact h (name, s) hmem

namespace Grouping

variable {state : Grouping} {header : Header}

/-- Every section goes by the name in its header. -/
def HeaderNamed (state : Grouping) : Prop :=
  ∀ entry ∈ state.sections, entry.2.name = entry.1.name

theorem HeaderNamed.enter (h : state.HeaderNamed) (header : Header) :
    (state.enter header).HeaderNamed := by
  unfold Grouping.enter
  split
  · exact h
  · intro entry hentry
    rcases List.mem_append.mp hentry with hmem | hnew
    · exact h entry hmem
    · rw [List.mem_singleton.mp hnew]

theorem HeaderNamed.define (h : state.HeaderNamed) (header : Header) (key value : String) :
    (state.define header key value).HeaderNamed := by
  intro entry hentry
  obtain ⟨⟨other, s⟩, hmem, rfl⟩ := List.mem_map.mp hentry
  have hname : s.name = other.name := h (other, s) hmem
  dsimp only
  split
  · exact hname
  · exact hname

/-- One more line does not change that. -/
theorem HeaderNamed.step {kind : FileKind} (h : state.HeaderNamed) (line : Line) :
    (Grouping.step kind state line).Yields HeaderNamed := by
  unfold Grouping.step
  split
  · refine (yields_true _).bind fun header? _ => ?_
    split
    · exact yields_pure (h.enter _)
    · exact yields_pure h
  · split
    · exact yields_fail _
    · split
      · exact yields_fail _
      · exact yields_pure h
      · unfold property
        dsimp only
        split
        · exact (yields_true _).bind fun _ _ => yields_pure h
        · split
          · exact (yields_true _).bind fun _ _ => yields_pure (h.define _ _ _)
          · exact yields_pure (h.define _ _ _)

end Grouping

theorem Named.add {kind : FileKind} {file : File} {entry : Header × Section}
    (h : Named file.profiles) (hentry : entry.2.name = entry.1.name) :
    (File.add kind file entry).Yields fun file => Named file.profiles := by
  unfold File.add
  dsimp only
  split
  · exact (yields_true _).bind fun _ _ => yields_pure h
  · apply yields_pure
    unfold File.put
    split
    · exact h.set hentry
    · exact h
    · exact h

/-- The profiles of a file are filed under their names. -/
theorem yields_read (kind : FileKind) (text : String) :
    (File.read kind text).Yields fun file => Named file.profiles := by
  refine (yields_true _).bind fun lines _ => ?_
  have hgrouping : (lines.foldlM (Grouping.step kind) {}).Yields Grouping.HeaderNamed :=
    yields_foldlM (fun state line _ h => h.step line) (by rintro entry ⟨⟩)
  refine hgrouping.bind fun grouping hnamed => ?_
  exact yields_foldlM (fun file entry hentry h => h.add (hnamed entry hentry)) (by rintro entry ⟨⟩)

theorem yields_loadFile (kind : FileKind) (path : String) :
    (loadFile kind path).Yields fun file => Named file.profiles := by
  intro p file p' h
  simp only [loadFile, outcome_of] at h
  split at h
  · cases h
    rintro entry ⟨⟩
  · next text htext =>
    rcases hparse : File.parse kind text with ⟨e | parsed, warnings⟩
    · rw [hparse] at h
      cases h
    · rw [hparse] at h
      cases h
      exact yields_read kind text [] file warnings hparse

theorem Named.overlay {profiles : Table Section} {name : String} {s : Section}
    (h : Named profiles) (hs : s.name = name) : Named (overlayProfile profiles name s) := by
  unfold overlayProfile
  split
  · next earlier hearlier =>
    have hname : earlier.name = name := h.get? hearlier
    exact h.set hname
  · exact h.set hs

/-- Profiles that stand in both files keep their names, and so does the active one. -/
theorem Named.merge {config credentials : File} (hconfig : Named config.profiles)
    (hcredentials : Named credentials.profiles) (active : String) :
    Named (merge active config credentials).profiles := by
  have hfold : ∀ entries : Table Section, Named entries → ∀ profiles, Named profiles →
      Named (entries.foldl (fun t entry => overlayProfile t entry.1 entry.2) profiles) := by
    intro entries hentries
    induction entries with
    | nil => exact fun _ h => h
    | cons entry entries ih =>
      intro profiles hprofiles
      refine ih (fun e he => hentries e (List.mem_cons_of_mem entry he)) _ ?_
      exact hprofiles.overlay (hentries entry List.mem_cons_self)
  have hprofiles := hfold config.profiles hconfig credentials.profiles hcredentials
  unfold SharedConfig.merge
  dsimp only
  split
  · exact hprofiles
  · exact hprofiles.set rfl

theorem yields_load (profile? : Option String) :
    (load profile?).Yields fun config => Named config.profiles := by
  refine (yields_true _).bind fun p _ => ?_
  refine (yields_true _).bind fun place _ => ?_
  refine (yields_loadFile _ _).bind fun config hconfig => ?_
  refine (yields_loadFile _ _).bind fun credentials hcredentials => ?_
  exact yields_pure (hconfig.merge hcredentials place.profile)

/-- **The active profile goes by the name that was asked for.** -/
theorem name_activeProfile (h : (load profile?).outcome p = (.ok config, p')) :
    config.activeProfile.name = config.active := by
  have hnamed : Named config.profiles := yields_load profile? p config p' h
  rw [activeProfile, SharedConfig.profile?]
  rcases hactive : config.profiles.get? config.active with - | s
  · rfl
  · exact hnamed.get? hactive

end AwsSigning.SharedConfig
