/-
AwsSigning/Proofs/Endpoint.lean

The block of a service reaches whoever asks for its endpoint.

A config file may name the endpoint of a service in a block of a services
section, and a profile refers to that section by name (`ServicesBlock`):

    [profile dev]
    services = here

    [services here]
    s3 =
      endpoint_url = http://localhost:9000

From there it takes five steps to the endpoint.  Lines are folded and grouped
(`exists_get?_of_defines`), the files are merged (`Merged`), the section is
looked up, the name of the service is made into a key (`isIdentifier_forSection`,
or else the key would have been passed over), and the block is read
(`subProperty?_of_block`).  Put together they give the endpoint wherever no
property and no variable names another one, whatever else stands in the files and
also if the profile has an endpoint of its own (`url_of_servicesBlock`).
-/
import AwsSigning.Endpoint
import AwsSigning.Proofs.SharedConfig.Blocks
import AwsSigning.Proofs.SharedConfig.Merging
import AwsSigning.Proofs.Text.Utf8

namespace AwsSigning

open Operation SharedConfig

/-! ### Keys of services -/

namespace Text

variable {s : List Char}

theorem lowerAfter_of_ascii (h : ∀ c ∈ s, c.toNat < 0x80) (before : List Char) :
    lowerAfter before s = s.map Char.toLower := by
  induction s generalizing before with
  | nil => rfl
  | cons c s ih =>
    have hc : c.toNat < 0x80 := h c List.mem_cons_self
    have hsigma : c ≠ 'Σ' := by
      rintro rfl
      exact absurd hc (by decide)
    rw [lowerAfter, if_neg hsigma, lowerChar, if_pos hc,
      ih fun d hd => h d (List.mem_cons_of_mem c hd)]
    rfl

/-- A text of ASCII is put in small letters character by character. -/
theorem lower_of_ascii (h : ∀ c ∈ s, c.toNat < 0x80) : lower s = s.map Char.toLower :=
  lowerAfter_of_ascii h []

end Text

/-- The name of a service: words of letters and digits of ASCII with single spaces between them. -/
def IsServiceId (id : String) : Prop :=
  ∃ words : List (List Char), words ≠ [] ∧
    (∀ word ∈ words, word ≠ [] ∧ ∀ c ∈ word, c.isAlphanum = true) ∧
      id.toList = List.intercalate [' '] words

namespace IsServiceId

variable {id : String}

theorem char_of_mem (h : IsServiceId id) :
    ∀ c ∈ id.toList, c = ' ' ∨ c.isAlphanum = true := by
  obtain ⟨words, -, hwords, hid⟩ := h
  rw [hid]
  exact Text.forall_mem_intercalate (fun c hc => .inl (List.mem_singleton.mp hc))
    fun word hword c hc => .inr ((hwords word hword).2 c hc)

theorem exists_char (h : IsServiceId id) : ∃ c ∈ id.toList, c.isAlphanum = true := by
  obtain ⟨words, hne, hwords, hid⟩ := h
  obtain ⟨word, words, rfl⟩ := List.exists_cons_of_ne_nil hne
  obtain ⟨hword, hchars⟩ := hwords word List.mem_cons_self
  obtain ⟨c, word, rfl⟩ := List.exists_cons_of_ne_nil hword
  refine ⟨c, ?_, hchars c List.mem_cons_self⟩
  rw [hid]
  rcases words with - | ⟨next, words⟩
  · simp
  · simp [List.intercalate_cons_cons]

/-- Spaces become underscores, and everything else is a letter or a digit. -/
theorem char_of_mem_underscored (h : IsServiceId id) :
    ∀ c ∈ ServiceName.underscored id.toList, c = '_' ∨ c.isAlphanum = true := by
  intro c hc
  obtain ⟨d, hd, rfl⟩ := List.mem_map.mp hc
  rcases h.char_of_mem d (Text.mem_of_mem_trim hd) with rfl | halnum
  · exact .inl (if_pos rfl)
  · have hspace : d ≠ ' ' := by
      rintro rfl
      exact absurd halnum (by decide)
    rw [if_neg hspace]
    exact .inr halnum

theorem underscored_ne_nil (h : IsServiceId id) : ServiceName.underscored id.toList ≠ [] := by
  obtain ⟨c, hc, halnum⟩ := h.exists_char
  have hrange := Text.toNat_of_isAlphanum halnum
  have hvisible : Text.isBlank c = false := Text.isBlank_of_visible (by omega) (by omega)
  have hkept : c ∈ Text.trim id.toList := (Text.mem_trim_iff hvisible).mpr hc
  simpa [ServiceName.underscored] using List.ne_nil_of_mem hkept

/-- **The key of a service is one that is not passed over.** -/
theorem isIdentifier_forSection (h : IsServiceId id) :
    isIdentifier (ServiceName.forSection id).toList = true := by
  have hascii : ∀ c ∈ ServiceName.underscored id.toList, c.toNat < 0x80 := by
    intro c hc
    rcases h.char_of_mem_underscored c hc with rfl | halnum
    · decide
    · have hrange := Text.toNat_of_isAlphanum halnum
      omega
  have hlower : ∀ n < 0x80, Char.ofNat n = '_' ∨ (Char.ofNat n).isAlphanum = true →
      isIdentifierChar (Char.ofNat n).toLower = true := by decide
  rw [ServiceName.forSection, String.toList_ofList, Text.lower_of_ascii hascii, isIdentifier,
    Bool.and_eq_true, decide_eq_true_eq, List.all_eq_true]
  refine ⟨by simpa using h.underscored_ne_nil, ?_⟩
  simp only [List.mem_map, forall_exists_index, and_imp, forall_apply_eq_imp_iff₂]
  intro c hc
  have hsmall := hlower c.toNat (hascii c hc)
  rw [Char.ofNat_toNat] at hsmall
  exact hsmall (h.char_of_mem_underscored c hc)

end IsServiceId

/-! ### Blocks in files -/

/-- A config file in which a profile refers to a services section, and in that section the block of
a service sets the endpoint. -/
structure ServicesBlock (text profile id url : String) where
  /-- The header of the profile. -/
  header : Header
  ofProfile : header.kind = .profile ∧ header.name = profile
  counts : Counts .config text header
  /-- The name of the services section. -/
  services : String
  refers : Defines .config text header "services" services.toList []
  /-- The lines of the block; the key of the service has no value of its own. -/
  nested : List (List Char)
  block : Defines .config text ⟨.services, services, true⟩ (ServiceName.forSection id) [] nested
  /-- The last line of the block that sets the endpoint, and the lines around it. -/
  front : List (List Char)
  line : List Char
  back : List (List Char)
  nested_eq : nested = front ++ line :: back
  sets : Sets line "endpoint_url" url
  last : ∀ later ∈ back, ∀ other, ¬Sets later "endpoint_url" other

variable {text profile id url : String} {file : File}

/-- The file has the reference and the block. -/
theorem ServicesBlock.exists_get? (b : ServicesBlock text profile id url) (hid : IsServiceId id)
    (hparse : (File.parse .config text).1 = .ok file) :
    valueIn (file.profiles.get? profile) "services" = some b.services ∧
      ∃ s, file.services.get? b.services = some s ∧
        s.subProperty? (ServiceName.forSection id) "endpoint_url" = some url := by
  constructor
  · obtain ⟨s, hs, hvalue⟩ := exists_get?_of_defines hparse b.refers (by decide) b.counts
    rw [b.ofProfile.1, b.ofProfile.2] at hs
    have hprofile : file.profiles.get? profile = some s := hs
    rw [hprofile, valueIn, Option.bind_some, hvalue, List.intercalate_singleton,
      String.ofList_toList]
  · have hcounts : Counts .config text ⟨.services, b.services, true⟩ := fun hbare => by cases hbare
    obtain ⟨s, hs, hvalue⟩ :=
      exists_get?_of_defines hparse b.block hid.isIdentifier_forSection hcounts
    exact ⟨s, hs, subProperty?_of_block hvalue b.block.isNested b.nested_eq (by decide) b.sets
      b.last⟩

/-! ### Loading -/

namespace SharedConfig

variable {p : Platform} {place : Location} {path : String} {kind : FileKind}

theorem outcome_loadFile (htext : p.fileText path = .ok text)
    (hparse : (File.parse kind text).1 = .ok file) :
    ∃ warnings, (loadFile kind path).outcome p = (.ok file, { p with warnings }) := by
  refine ⟨p.warnings ++ (File.parse kind text).2, ?_⟩
  simp only [loadFile, outcome_of, htext]
  rw [hparse]
  rfl

/-- A file that can be read if it is there gives sections that are in order. -/
theorem exists_outcome_loadFile (h : ∀ text, p.fileText path = .ok text →
      ∃ file, (File.parse kind text).1 = .ok file) :
    ∃ file p', (loadFile kind path).outcome p = (.ok file, p') ∧ Orderly file.profiles := by
  rcases htext : p.fileText path with e | text
  · refine ⟨{}, p, ?_, List.nodup_nil, ?_, ?_⟩
    · simp only [loadFile, outcome_of, htext]
    · rintro entry ⟨⟩
    · rintro entry ⟨⟩
  · obtain ⟨file, hparse⟩ := h text htext
    obtain ⟨warnings, hload⟩ := outcome_loadFile htext hparse
    exact ⟨file, _, hload, orderly_of_parse hparse .profile⟩

/-- **Files that are well formed are loaded and merged.** -/
theorem exists_load (hplace : Location.resolve p (some profile) = .ok place)
    (htext : p.fileText place.configFile = .ok text)
    (hparse : (File.parse .config text).1 = .ok file)
    (hcredentials : ∀ text, p.fileText place.credentialsFile = .ok text →
      ∃ credentials, (File.parse .credentials text).1 = .ok credentials) :
    ∃ credentials shared p', (load (some profile)).outcome p = (.ok shared, p') ∧
      Merged profile file credentials shared := by
  obtain ⟨warnings, hconfig⟩ := outcome_loadFile htext hparse
  obtain ⟨credentials, p', hload, horderly⟩ :=
    exists_outcome_loadFile (p := { p with warnings }) hcredentials
  refine ⟨credentials, merge profile file credentials, p', ?_,
    merged_merge (orderly_of_parse hparse .profile) horderly profile⟩
  simp only [load, loadFrom, outcome_bind, outcome_get, outcome_ofExcept, outcome_pure, hplace,
    hconfig, hload, profile_of_resolve hplace]

end SharedConfig

/-! ### The endpoint -/

namespace Endpoint

/-- No property and no variable names an endpoint, for the service or for all of them. -/
structure Unset (p : Platform) (id : String) : Prop where
  serviceVariable : p.envVariable? (Setting.endpointUrl.serviceVariable id) = none
  serviceProperty : p.property? (Setting.endpointUrl.serviceProperty id) = none
  generalVariable : p.envVariable? Setting.endpointUrl.envVariable = none
  generalProperty : p.property? Setting.endpointUrl.property = none

theorem Unset.urlFromProcess? {p : Platform} (h : Unset p id) : urlFromProcess? p id = none := by
  rw [Endpoint.urlFromProcess?, h.serviceVariable, h.serviceProperty, h.generalVariable,
    h.generalProperty]
  rfl

variable {credentials : File} {shared : SharedConfig}

/-- The block is found in the merged configuration, before the profile is asked. -/
theorem urlFromConfig_of_merged (b : ServicesBlock text profile id url) (hid : IsServiceId id)
    (hparse : (File.parse .config text).1 = .ok file)
    (h : Merged profile file credentials shared) :
    urlFromConfig shared id = .ok (some url) := by
  obtain ⟨hrefers, s, hs, hblock⟩ := b.exists_get? hid hparse
  have hservices : shared.activeProfile.get? "services" = some b.services := by
    have hvalue := h.value profile "services"
    have hactive : shared.profile? profile = some shared.activeProfile := by
      have hlookup := h.active.2
      rwa [h.active.1] at hlookup
    rw [hrefers, Option.some_or, hactive] at hvalue
    exact hvalue
  have hsection : shared.services? b.services = some s := by
    rw [SharedConfig.services?, h.services, hs]
  have hof : shared.servicesOf shared.activeProfile = .ok (some s) := by
    rw [SharedConfig.servicesOf, hservices]
    dsimp only
    rw [hsection]
  rw [urlFromConfig, hof]
  show Except.ok (s.subProperty? _ "endpoint_url" <|> _) = _
  rw [hblock]
  rfl

/-- **The block of a service reaches whoever asks for its endpoint.**  The config file with the
block is loaded, and with the profile active that refers to it, the endpoint of the block is found
wherever endpoints count that are configured and nothing else names one. -/
theorem url_of_servicesBlock {p : Platform} {place : Location}
    (b : ServicesBlock text profile id url) (hid : IsServiceId id)
    (hplace : Location.resolve p (some profile) = .ok place)
    (htext : p.fileText place.configFile = .ok text)
    (hparse : (File.parse .config text).1 = .ok file)
    (hcredentials : ∀ text, p.fileText place.credentialsFile = .ok text →
      ∃ credentials, (File.parse .credentials text).1 = .ok credentials) :
    ∃ shared p', (load (some profile)).outcome p = (.ok shared, p') ∧ shared.active = profile ∧
      ∀ q : Platform, Unset q id →
        Setting.ignoreEndpointUrls.resolve q (some shared.activeProfile) = .ok (some false) →
          Endpoint.url q shared id = .ok (some url) := by
  obtain ⟨credentials, shared, p', hload, hmerged⟩ :=
    exists_load hplace htext hparse hcredentials
  refine ⟨shared, p', hload, hmerged.active.1, fun q hunset hignored => ?_⟩
  rw [Endpoint.url, hignored, hunset.urlFromProcess?]
  exact urlFromConfig_of_merged b hid hparse hmerged

/-- A block that sets the endpoint twice, and endpoints in other places that do not count. -/
def blockLines : List String :=
  ["[profile dev]", "services = here # not there", "endpoint_url = http://profile", "",
   "[services here]", "s3_control =", "  endpoint_url = http://first", "; a comment",
   "  endpoint_url = http://localhost:9000", "  max_attempts = 3", "sqs =",
   "  endpoint_url = http://queue"]

def blockText : String := "\n".intercalate blockLines

def blockFile : File where
  profiles := [("dev", ⟨"dev", [("services", "here"), ("endpoint_url", "http://profile")]⟩)]
  services := [("here", ⟨"here",
    [("s3_control", "\n".intercalate ["", "endpoint_url = http://first",
        "endpoint_url = http://localhost:9000", "max_attempts = 3"]),
     ("sqs", "\nendpoint_url = http://queue")]⟩)]

theorem toList_blockText :
    blockText.toList = List.intercalate ['\n'] (blockLines.map String.toList) :=
  String.toList_intercalate

theorem lines_blockText : Text.lines blockText.toList = blockLines.map String.toList := by
  rw [toList_blockText]
  decide +kernel

theorem parse_blockText : (File.parse .config blockText).1 = .ok blockFile := by
  rw [File.parse, File.read, toList_blockText]
  exact toOption_eq_some_iff.mp (by decide +kernel)

def devBlock : ServicesBlock blockText "dev" "S3 Control" "http://localhost:9000" where
  header := ⟨.profile, "dev", true⟩
  ofProfile := ⟨rfl, rfl⟩
  counts h := by cases h
  services := "here"
  refers := ⟨(blockLines.take 1).map String.toList, "services = here # not there".toList,
    (blockLines.drop 2).map String.toList, lines_blockText,
    .of_not_mem (by decide) (by decide +kernel) (by decide +kernel) (by decide +kernel)
      (by decide +kernel)⟩
  nested := ["endpoint_url = http://first".toList, "endpoint_url = http://localhost:9000".toList,
    "max_attempts = 3".toList]
  block := ⟨(blockLines.take 5).map String.toList, "s3_control =".toList,
    (blockLines.drop 6).map String.toList, lines_blockText,
    .of_not_mem (by decide) (by decide +kernel) (by decide +kernel) (by decide +kernel)
      (by decide +kernel)⟩
  front := ["endpoint_url = http://first".toList]
  line := "endpoint_url = http://localhost:9000".toList
  back := ["max_attempts = 3".toList]
  nested_eq := rfl
  sets := ⟨"endpoint_url ".toList, " http://localhost:9000".toList, by decide +kernel,
    by decide +kernel, by decide +kernel, by decide +kernel⟩
  last := by
    intro later hlater other hsets
    have hread := subPropertyOfLine?_eq_some_iff.mpr ⟨by decide, hsets⟩
    have hmax : Section.subPropertyOfLine? later = some ("max_attempts", "3") := by
      rw [List.mem_singleton.mp hlater]
      decide +kernel
    rw [hmax] at hread
    have hkey : "max_attempts" = "endpoint_url" := congrArg Prod.fst (Option.some.inj hread)
    exact absurd hkey (by decide)

/-- The files are where properties say, and there is no credentials file. -/
def fileHost : Platform where
  now := .ofSecond 1440938160
  properties := [("aws.configFile", "/config"), ("aws.sharedCredentialsFile", "/credentials")]
  files := some [("/config", .contents (Utf8.ofString blockText))]

/-- Endpoints that are configured count, and there are no settings besides. -/
def plainHost : Platform where
  now := .ofSecond 1440938160
  properties := [("aws.ignoreConfiguredEndpointUrls", "false")]

theorem url_of_servicesBlock_dev : ∃ shared p',
    (load (some "dev")).outcome fileHost = (.ok shared, p') ∧
      Endpoint.url plainHost shared "S3 Control" = .ok (some "http://localhost:9000") := by
  have hwords : ∀ word ∈ ["S3".toList, "Control".toList],
      (decide (word ≠ []) && word.all Char.isAlphanum) = true := by decide
  have hid : IsServiceId "S3 Control" :=
    ⟨["S3".toList, "Control".toList], by decide, fun word hword => by simpa using hwords word hword,
      by decide⟩
  have hplace : Location.resolve fileHost (some "dev")
      = .ok ⟨"dev", "/config", "/credentials"⟩ := toOption_eq_some_iff.mp (by decide +kernel)
  have htext : fileHost.fileText "/config" = .ok blockText :=
    congrArg Except.ok (Utf8.toStringLossy_ofString blockText)
  obtain ⟨shared, p', hload, -, hurl⟩ :=
    url_of_servicesBlock devBlock hid hplace htext parse_blockText fun text htext => by cases htext
  have hunset : Unset plainHost "S3 Control" :=
    ⟨by decide +kernel, by decide +kernel, by decide +kernel, by decide +kernel⟩
  refine ⟨shared, p', hload, hurl plainHost hunset ?_⟩
  -- the property decides, whatever the profile says
  rfl

end Endpoint

end AwsSigning
