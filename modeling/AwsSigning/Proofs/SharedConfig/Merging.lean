/-
AwsSigning/Proofs/SharedConfig/Merging.lean

Nothing is lost when the two files are merged.

Profiles that come out of a file are orderly (`Orderly`): each is filed once,
under its own name, and defines each of its keys once.  Writing one more profile
over them keeps that up, and what stands under a name afterwards is told from
the two profiles of that name alone (`overlaid`):

    in both files       the keys of the credentials file, then the new ones of the
                        config file; the config file has the last word on values
    in one of them      the profile as it is
    in neither          nothing, or an empty profile if it is the active one

As the two lookups are all that matters, the order in which the profiles of the
files are gone through does not (`merge_of_parse`).
-/
import AwsSigning.Proofs.SharedConfig.Contents
import AwsSigning.Proofs.SharedConfig.Loading

namespace AwsSigning.SharedConfig

variable {kind : FileKind} {text : String} {file config credentials : File} {name active : String}
  {s : Section} {profiles entries : Table Section}

/-! ### Sections in order -/

/-- Sections that are filed once, under their own names, with each key defined once. -/
structure Orderly (sections : Table Section) : Prop where
  distinct : (sections.map Prod.fst).Nodup
  named : Named sections
  keys : ∀ entry ∈ sections, (entry.2.properties.map Prod.fst).Nodup

/-- **The sections of a file that was read are in order.** -/
theorem orderly_of_parse (h : (File.parse kind text).1 = .ok file) (sectionKind : SectionKind) :
    Orderly (file.ofKind sectionKind) := by
  have hfiled := filed_of_parse h
  -- every section is that of a header of its kind and name
  have hsection : ∀ entry ∈ file.ofKind sectionKind, ∃ header : Header,
      header.name = entry.1 ∧ entry.2 = sectionOf (saidIn kind text) header := by
    rintro ⟨name, s⟩ hentry
    have hget := (Table.get?_eq_some_iff (hfiled.distinct sectionKind)).mpr hentry
    rw [hfiled.found, Option.or_eq_some_iff] at hget
    rcases hget with hget | ⟨-, hget⟩
    · exact ⟨_, rfl, eq_sectionOf hget⟩
    · exact ⟨_, rfl, eq_sectionOf hget⟩
  constructor
  · exact hfiled.distinct sectionKind
  · intro entry hentry
    obtain ⟨header, hname, hs⟩ := hsection entry hentry
    rw [hs, ← hname]
    rfl
  · intro entry hentry
    obtain ⟨header, -, hs⟩ := hsection entry hentry
    rw [hs, sectionOf, Table.keys_ofList]
    exact nodup_eraseDups _

namespace Orderly

theorem keys_of_get? (h : Orderly profiles) (hs : profiles.get? name = some s) :
    (s.properties.map Prod.fst).Nodup :=
  h.keys (name, s) ((Table.get?_eq_some_iff h.distinct).mp hs)

theorem set (h : Orderly profiles) (hname : s.name = name)
    (hkeys : (s.properties.map Prod.fst).Nodup) : Orderly (profiles.set name s) where
  distinct := Table.nodup_set h.distinct name s
  named := h.named.set hname
  keys entry hentry := by
    rcases Table.mem_set hentry with rfl | hmem
    · exact hkeys
    · exact h.keys entry hmem

/-- One more profile is written over those that are there. -/
theorem overlayProfile (h : Orderly profiles) (hname : s.name = name)
    (hkeys : (s.properties.map Prod.fst).Nodup) : Orderly (overlayProfile profiles name s) := by
  unfold SharedConfig.overlayProfile
  split
  · next earlier hearlier =>
    have hname' : earlier.name = name := h.named.get? hearlier
    exact h.set hname' (Table.nodup_setAll (h.keys_of_get? hearlier) s.properties)
  · exact h.set hname hkeys

/-- All of some profiles are written over those that are there. -/
theorem foldl_overlayProfile (h : Orderly profiles) (hnamed : Named entries)
    (hkeys : ∀ entry ∈ entries, (entry.2.properties.map Prod.fst).Nodup) :
    Orderly (entries.foldl (fun t entry => SharedConfig.overlayProfile t entry.1 entry.2)
      profiles) := by
  induction entries generalizing profiles with
  | nil => exact h
  | cons entry entries ih =>
    have hfirst := h.overlayProfile (hnamed entry List.mem_cons_self)
      (hkeys entry List.mem_cons_self)
    exact ih hfirst (fun e he => hnamed e (List.mem_cons_of_mem entry he))
      fun e he => hkeys e (List.mem_cons_of_mem entry he)

/-- **The merged profiles are in order.** -/
theorem merge (hconfig : Orderly config.profiles) (hcredentials : Orderly credentials.profiles)
    (active : String) : Orderly (merge active config credentials).profiles := by
  have hfold := hcredentials.foldl_overlayProfile hconfig.named hconfig.keys
  unfold SharedConfig.merge
  dsimp only
  split
  · exact hfold
  · exact hfold.set rfl List.nodup_nil

end Orderly

/-! ### What stands under a name -/

/-- A later profile written over an earlier one, if there are both. -/
def overlaid : Option Section → Option Section → Option Section
  | some earlier, some later => some (earlier.overlay later)
  | some earlier, none => some earlier
  | none, later => later

theorem get?_overlayProfile_self (profiles : Table Section) (name : String) (s : Section) :
    (overlayProfile profiles name s).get? name = overlaid (profiles.get? name) (some s) := by
  unfold overlayProfile
  rcases profiles.get? name with - | earlier
  · exact Table.get?_set_self _ _ _
  · exact Table.get?_set_self _ _ _

theorem get?_overlayProfile_of_ne {other : String} (h : other ≠ name) (profiles : Table Section)
    (s : Section) : (overlayProfile profiles name s).get? other = profiles.get? other := by
  unfold overlayProfile
  split
  · exact Table.get?_set_of_ne h _ _
  · exact Table.get?_set_of_ne h _ _

/-- **Only the two profiles of a name count for what stands under it.** -/
theorem get?_foldl_overlayProfile (h : (entries.map Prod.fst).Nodup) (profiles : Table Section)
    (name : String) :
    (entries.foldl (fun t entry => overlayProfile t entry.1 entry.2) profiles).get? name
      = overlaid (profiles.get? name) (entries.get? name) := by
  induction entries generalizing profiles with
  | nil =>
    show profiles.get? name = overlaid (profiles.get? name) none
    rcases profiles.get? name with - | earlier <;> rfl
  | cons entry entries ih =>
    obtain ⟨k, s⟩ := entry
    obtain ⟨hfresh, hrest⟩ := List.nodup_cons.mp h
    rw [List.foldl_cons, ih hrest, Table.get?_cons]
    by_cases hname : name = k
    · -- each profile is written once, so the ones that follow are of other names
      subst hname
      rw [Table.get?_eq_none_iff.mpr hfresh, get?_overlayProfile_self, if_pos rfl]
      rcases profiles.get? name with - | earlier <;> rfl
    · rw [get?_overlayProfile_of_ne hname, if_neg hname]

/-- What stands under a name after merging: what the files have, or an empty active profile. -/
theorem profile?_merge (h : Orderly config.profiles) (active name : String) :
    (merge active config credentials).profile? name
      = (overlaid (credentials.profiles.get? name) (config.profiles.get? name)).or
          (if name = active then some { name := active } else none) := by
  have hfold := get?_foldl_overlayProfile h.distinct credentials.profiles
  unfold SharedConfig.profile? merge
  dsimp only
  split
  · next hhas =>
    rw [Table.has, hfold] at hhas
    rw [hfold]
    split
    · next heq =>
      obtain ⟨s, hs⟩ := Option.isSome_iff_exists.mp (heq ▸ hhas)
      rw [hs, Option.some_or]
    · rw [Option.or_none]
  · next hhas =>
    rw [Table.has, hfold, Bool.not_eq_true, Option.isSome_eq_false_iff,
      Option.isNone_iff_eq_none] at hhas
    split
    · next heq =>
      rw [heq, Table.get?_set_self, hhas, Option.none_or]
    · next hne =>
      rw [Table.get?_set_of_ne hne, hfold, Option.or_none]

/-! ### Values and keys -/

/-- The value of a key in a profile, if there is the profile. -/
def valueIn (profile? : Option Section) (key : String) : Option String :=
  profile?.bind (·.get? key)

/-- The keys of a profile, if there is the profile. -/
def keysIn (profile? : Option Section) : List String :=
  (profile?.map (·.properties.map Prod.fst)).getD []

section

variable {earlier later : Option Section}

theorem valueIn_overlaid (h : (keysIn later).Nodup) (key : String) :
    valueIn (overlaid earlier later) key = (valueIn later key).or (valueIn earlier key) := by
  rcases earlier with - | earlier
  · rw [overlaid]
    exact Option.or_none.symm
  · rcases later with - | later
    · rfl
    · exact Table.get?_setAll h earlier.properties key

theorem keysIn_overlaid (h : (keysIn later).Nodup) :
    keysIn (overlaid earlier later)
      = keysIn earlier ++ (keysIn later).filter fun key => key ∉ keysIn earlier := by
  rcases earlier with - | earlier
  · have hall : (keysIn later).filter (fun key => key ∉ keysIn none) = keysIn later :=
      List.filter_eq_self.mpr fun key _ => by simp [keysIn]
    rw [hall]
    rfl
  · rcases later with - | later
    · simp [keysIn, overlaid]
    · exact Table.keys_setAll h earlier.properties

/-- An empty profile has no values. -/
theorem valueIn_or_empty (profile? : Option Section) (key : String) :
    valueIn (profile?.or (if name = active then some { name := active } else none)) key
      = valueIn profile? key := by
  rcases profile? with - | s
  · rw [Option.none_or]
    split <;> rfl
  · rfl

theorem keysIn_or_empty (profile? : Option Section) :
    keysIn (profile?.or (if name = active then some { name := active } else none))
      = keysIn profile? := by
  rcases profile? with - | s
  · rw [Option.none_or]
    split <;> rfl
  · rfl

end

/-! ### Merging -/

/-- What becomes of the profiles of two files when one of them is to be active. -/
structure Merged (active : String) (config credentials : File) (merged : SharedConfig) : Prop where
  /-- There are the profiles of the files and the active one. -/
  there : ∀ name, (merged.profile? name).isSome = true ↔
    config.profiles.has name = true ∨ credentials.profiles.has name = true ∨ name = active
  /-- The config file has the last word, and then the credentials file. -/
  value : ∀ name key, valueIn (merged.profile? name) key
    = (valueIn (config.profiles.get? name) key).or (valueIn (credentials.profiles.get? name) key)
  /-- The keys of the credentials file come first, then those that only the config file has. -/
  keys : ∀ name, keysIn (merged.profile? name) = keysIn (credentials.profiles.get? name)
    ++ (keysIn (config.profiles.get? name)).filter
        fun key => key ∉ keysIn (credentials.profiles.get? name)
  orderly : Orderly merged.profiles
  services : merged.services = config.services
  /-- The active profile can always be looked up. -/
  active : merged.active = active ∧ merged.profile? merged.active = some merged.activeProfile

theorem merged_merge (hconfig : Orderly config.profiles)
    (hcredentials : Orderly credentials.profiles) (active : String) :
    Merged active config credentials (merge active config credentials) := by
  have hlookup : ∀ name, (merge active config credentials).profile? name = _ :=
    profile?_merge hconfig active
  have hkeys : ∀ name, (keysIn (config.profiles.get? name)).Nodup := by
    intro name
    rcases hget : config.profiles.get? name with - | s
    · exact List.nodup_nil
    · exact hconfig.keys_of_get? hget
  have hthere : ∀ name, ((merge active config credentials).profile? name).isSome = true ↔
      config.profiles.has name = true ∨ credentials.profiles.has name = true ∨ name = active := by
    intro name
    rw [hlookup, Table.has, Table.has]
    rcases credentials.profiles.get? name with - | earlier <;>
      rcases config.profiles.get? name with - | later <;>
        simp [overlaid]
  constructor
  case there => exact hthere
  case value =>
    intro name key
    rw [hlookup, valueIn_or_empty, valueIn_overlaid (hkeys name)]
  case keys =>
    intro name
    rw [hlookup, keysIn_or_empty, keysIn_overlaid (hkeys name)]
  case orderly => exact hconfig.merge hcredentials active
  case services => rfl
  case active =>
    refine ⟨rfl, ?_⟩
    obtain ⟨s, hs⟩ := Option.isSome_iff_exists.mp ((hthere active).mpr (.inr (.inr rfl)))
    have hactive : (merge active config credentials).profile?
        (merge active config credentials).active = some s := hs
    rw [activeProfile, hactive]
    rfl

/-! ### The order of profiles -/

/-- A file whose sections are gone through in another order. -/
structure Reordered (file file' : File) : Prop where
  profiles : file.profiles.Perm file'.profiles
  services : file.services.Perm file'.services

/-- Nothing that is looked up by name is different. -/
structure SameEntries (c c' : SharedConfig) : Prop where
  active : c.active = c'.active
  profiles : ∀ name, c.profile? name = c'.profile? name
  services : ∀ name, c.services? name = c'.services? name

theorem Orderly.perm (h : Orderly profiles) (hperm : profiles.Perm entries) : Orderly entries where
  distinct := (hperm.map Prod.fst).nodup h.distinct
  named entry hentry := h.named entry (hperm.mem_iff.mpr hentry)
  keys entry hentry := h.keys entry (hperm.mem_iff.mpr hentry)

theorem sameEntries_of_reordered {config' credentials' : File} (hconfig : Orderly config.profiles)
    (hservices : Orderly config.services) (hcredentials : Orderly credentials.profiles)
    (h : Reordered config config') (h' : Reordered credentials credentials') (active : String) :
    SameEntries (merge active config credentials) (merge active config' credentials') where
  active := rfl
  profiles name := by
    rw [profile?_merge hconfig, profile?_merge (hconfig.perm h.profiles),
      Table.get?_eq_of_perm hconfig.distinct h.profiles,
      Table.get?_eq_of_perm hcredentials.distinct h'.profiles]
  services name := Table.get?_eq_of_perm hservices.distinct h.services name

/-- **Nothing is lost when two files are merged**, the result is in order, and the order in which
the sections of the files are gone through does not matter. -/
theorem merge_of_parse {configText credentialsText : String} (active : String)
    (hconfig : (File.parse .config configText).1 = .ok config)
    (hcredentials : (File.parse .credentials credentialsText).1 = .ok credentials) :
    Merged active config credentials (merge active config credentials) ∧
      ∀ config' credentials', Reordered config config' → Reordered credentials credentials' →
        SameEntries (merge active config credentials) (merge active config' credentials') := by
  have hprofiles : Orderly config.profiles := orderly_of_parse hconfig .profile
  have hservices : Orderly config.services := orderly_of_parse hconfig .services
  have hothers : Orderly credentials.profiles := orderly_of_parse hcredentials .profile
  exact ⟨merged_merge hprofiles hothers active, fun _ _ h h' =>
    sameEntries_of_reordered hprofiles hservices hothers h h' active⟩

/-- A profile that stands in both files. -/
def chosenText : String :=
  "\n".intercalate ["[profile dev]", "output = json", "region = us-west-2"]

def chosenFile : File where
  profiles := [("dev", ⟨"dev", [("output", "json"), ("region", "us-west-2")]⟩)]

def ownedText : String :=
  "\n".intercalate ["[dev]", "aws_access_key_id = AKIDEXAMPLE", "region = eu-west-1"]

def ownedFile : File where
  profiles := [("dev", ⟨"dev", [("aws_access_key_id", "AKIDEXAMPLE"), ("region", "eu-west-1")]⟩)]

theorem merge_of_parse_chosen :
    (File.parse .config chosenText).1 = .ok chosenFile ∧
    (File.parse .credentials ownedText).1 = .ok ownedFile ∧
    keysIn ((merge "spare" chosenFile ownedFile).profile? "dev")
      = ["aws_access_key_id", "region", "output"] ∧
    valueIn ((merge "spare" chosenFile ownedFile).profile? "dev") "region" = some "us-west-2" ∧
    (merge "spare" chosenFile ownedFile).activeProfile.name = "spare" := by
  have hconfig : (File.parse .config chosenText).1 = .ok chosenFile :=
    toOption_eq_some_iff.mp (by decide +kernel)
  have hcredentials : (File.parse .credentials ownedText).1 = .ok ownedFile :=
    toOption_eq_some_iff.mp (by decide +kernel)
  obtain ⟨hmerged, -⟩ := merge_of_parse "spare" hconfig hcredentials
  refine ⟨hconfig, hcredentials, ?_, ?_, ?_⟩
  · rw [hmerged.keys]
    decide
  · rw [hmerged.value]
    decide
  · exact hmerged.orderly.named.get? hmerged.active.2

end AwsSigning.SharedConfig
