/-
AwsSigning/Proofs/Metadata/Disabled.lean

Nothing is sent where the metadata service is not to be asked.

One setting says whether the service may be asked, and it is barred unless that
setting is `false` or has no text (`Metadata.Barred`).  Everybody who goes to
the service reads the setting first: before a token is shown, and before a
region is taken from the cell where it is kept.  So where the service is barred
its sources decline (`Metadata.Declined`), and leave the platform and their
cells alone.

Apart from the service nobody sends anything.  Settings only look, and files
that are read may give rise to warnings.  By induction over the tree a provider
does nothing to a platform where the service is barred but give warnings,

    Barred p  →  p.OnlyWarned (provider.ask p).2.2

whatever is in its cells, and neither does a client that looks up its settings.

A *household* has any number of providers, of metadata sources and of clients.
They are called in any order, each time on a platform that may have changed in
any way.  Every call that falls on a platform where the service is barred keeps
off (`Household.keepsOff_of_mem_run`), whatever the calls before it have found
and kept.
-/
import Mathlib.Logic.Function.Basic
import AwsSigning.Client
import AwsSigning.Proofs.Platform
import AwsSigning.Proofs.Setting

namespace AwsSigning

open Operation

variable {α β σ : Type} {p q r : Platform} {text : String}

/-! ### Platforms that are left alone -/

namespace Platform

/-- Nothing has happened in between but that warnings were given. -/
def OnlyWarned (p q : Platform) : Prop := ∃ texts, q = { p with warnings := p.warnings ++ texts }

namespace OnlyWarned

protected theorem refl (p : Platform) : p.OnlyWarned p := ⟨[], by simp⟩

theorem trans (h : p.OnlyWarned q) (h' : q.OnlyWarned r) : p.OnlyWarned r := by
  obtain ⟨texts, rfl⟩ := h
  obtain ⟨texts', rfl⟩ := h'
  exact ⟨texts ++ texts', by simp⟩

theorem warn (h : p.OnlyWarned q) (text : String) : p.OnlyWarned (q.warn text) :=
  h.trans ⟨[text], rfl⟩

theorem sent_eq (h : p.OnlyWarned q) : q.sent = p.sent := by
  obtain ⟨texts, rfl⟩ := h
  rfl

theorem sameSettings (h : p.OnlyWarned q) : p.SameSettings q := by
  obtain ⟨texts, rfl⟩ := h
  exact ⟨rfl, rfl⟩

theorem warned (h : p.OnlyWarned q) (h' : q.Warned r) : p.OnlyWarned r := by
  obtain rfl | ⟨text, rfl⟩ := h'
  · exact h
  · exact h.warn text

/-- Nothing can be told apart before and after. -/
theorem alike (h : p.OnlyWarned q) : p.Alike p q := by
  obtain ⟨texts, rfl⟩ := h
  exact { Alike.refl (.refl p) with }

/-- Two steps that only warn do so in turn. -/
theorem bind {op : Operation Platform α} {f : α → Operation Platform β}
    (h : p.OnlyWarned (op.outcome p).2)
    (hf : ∀ a q, p.OnlyWarned q → q.OnlyWarned ((f a).outcome q).2) :
    p.OnlyWarned ((op >>= f).outcome p).2 := by
  rw [outcome_bind]
  rcases hop : op.outcome p with ⟨e | a, q⟩
  · rwa [hop] at h
  · rw [hop] at h
    exact h.trans (hf a q h)

end OnlyWarned

end Platform

/-- **Loading only warns.** -/
theorem SharedConfig.onlyWarned_load (profile? : Option String) (p : Platform) :
    p.OnlyWarned ((load profile?).outcome p).2 := by
  have hfile : ∀ kind path q, Platform.OnlyWarned q ((loadFile kind path).outcome q).2 := by
    intro kind path q
    rw [loadFile, outcome_of]
    split
    · exact .refl q
    · exact ⟨_, rfl⟩
  refine .bind (.refl p) fun _ q _ => ?_
  refine .bind (.refl q) fun place q _ => ?_
  refine .bind (hfile _ _ q) fun config q _ => ?_
  exact .bind (hfile _ _ q) fun credentials q _ => .refl q

/-- Where the settings are the same, the same text decides. -/
theorem Setting.Decides.of_sameSettings {s : Setting α} {profile? : Option Section} {place : Place}
    (h : s.Decides p profile? place text) (hsame : p.SameSettings q) :
    s.Decides q profile? place text := by
  have htext : ∀ place, s.text? q profile? place = s.text? p profile? place := by
    intro place
    cases place with
    | property => rw [text?, text?, Platform.property?, Platform.property?, hsame.properties]
    | environment =>
      rw [text?, text?, Platform.envVariable?, Platform.envVariable?, hsame.environment]
    | profile => rfl
  exact ⟨(htext _).trans h.here, fun other hrank => (htext _).trans (h.before other hrank)⟩

/-! ### The metadata service -/

namespace Metadata

/-- The metadata service is not to be asked: the text that decides is not `false`. -/
def Barred (p : Platform) : Prop :=
  ∃ place text, Setting.metadataDisabled.Decides p none place text ∧
    Setting.metadataDisabled.read text ≠ .ok false

/-- What is answered where the service is barred: nothing is there if the text that decides is
`true`, and if the text cannot be read, that is a failure, which names the place of the text. -/
inductive Declined (p : Platform) : Except Error (Option α) → Prop
  | off {place text} (h : Setting.metadataDisabled.Decides p none place text)
      (hread : Setting.metadataDisabled.read text = .ok true) : Declined p (.ok none)
  | misspelt {place text e} (h : Setting.metadataDisabled.Decides p none place text)
      (hread : Setting.metadataDisabled.read text = .error e) :
      Declined p (.error (e.within (Setting.metadataDisabled.placeName none place)))

theorem Barred.of_onlyWarned (h : Barred p) (hwarned : p.OnlyWarned q) : Barred q := by
  obtain ⟨place, text, hdecides, hread⟩ := h
  exact ⟨place, text, hdecides.of_sameSettings hwarned.sameSettings, hread⟩

/-- Whoever looks at the setting first declines, and does nothing. -/
theorem Barred.exists_declined {s : σ × Platform} (h : Barred s.2)
    (otherwise : Operation (σ × Platform) (Option α)) :
    ∃ answer, Declined s.2 answer ∧
      (do
        let (_, p) ← get
        if ← Operation.ofExcept (isDisabled p) then pure none
        else otherwise : Operation (σ × Platform) (Option α)).outcome s = (answer, s) := by
  obtain ⟨place, text, hdecides, hread⟩ := h
  have hfound : Setting.metadataDisabled.resolveFromProcess s.2 = _ := hdecides.resolve_eq
  simp only [outcome_bind, outcome_get, outcome_ofExcept, isDisabled, hfound]
  rcases hvalue : Setting.metadataDisabled.read text with e | - | -
  · exact ⟨_, .misspelt hdecides hvalue, rfl⟩
  · exact absurd hvalue hread
  · exact ⟨_, .off hdecides hvalue, rfl⟩

/-- **Where the service is barred no credential is fetched**, whatever token is in use. -/
theorem Barred.fetchCredential (h : Barred p) (client : Client) :
    ∃ answer, Declined p answer ∧ fetchCredential.outcome (client, p) = (answer, client, p) :=
  exists_declined (s := (client, p)) h _

/-- **Where the service is barred no region is given**, not even one that was kept. -/
theorem Barred.fetch (h : Barred p) (locator : Locator) :
    ∃ answer, Declined p answer ∧ Locator.fetch.outcome (locator, p) = (answer, locator, p) :=
  exists_declined (s := (locator, p)) h _

end Metadata

open Metadata (Barred Declined)

/-! ### Providers -/

/-- Sources that only warn where the metadata service is barred. -/
def Mute (σ : Type) {α : Type} [Source σ α] : Prop :=
  ∀ (s : σ) (p : Platform), Barred p → p.OnlyWarned (Source.ask.outcome (s, p)).2.2

theorem CredentialSource.mute : Mute (CredentialSource (Nowhere Credential)) := by
  intro s p h
  cases s with
  | process => exact .refl p
  | profile name? =>
    exact .bind (SharedConfig.onlyWarned_load name? p) fun config q _ => .refl q
  | metadata client =>
    obtain ⟨answer, -, hfetch⟩ := h.fetchCredential client
    simp only [Source.ask, CredentialSource.ask, outcome_of, hfetch]
    exact .refl p
  | fixed credential => exact .refl p
  | custom state => exact nomatch state

theorem RegionSource.mute : Mute (RegionSource (Nowhere Region)) := by
  intro s p h
  cases s with
  | process => exact .refl p
  | profile name? =>
    exact .bind (SharedConfig.onlyWarned_load name? p) fun config q _ => .refl q
  | metadata locator =>
    obtain ⟨answer, -, hfetch⟩ := h.fetch locator
    simp only [Source.ask, RegionSource.ask, outcome_of, hfetch]
    exact .refl p
  | fixed region => exact .refl p
  | custom state => exact nomatch state

namespace Provider

variable [Source σ α] [Provided α]

mutual

/-- **Where the metadata service is barred a provider only warns**, whatever is in its cells. -/
theorem onlyWarned_ask (hsource : Mute σ) (provider : Provider σ α) {p : Platform} (h : Barred p) :
    p.OnlyWarned (provider.ask p).2.2 := by
  cases provider with
  | source s => exact hsource s p h
  | chain role members =>
    have hwalk := onlyWarned_askMembers hsource members h
    rw [ask]
    split
    · exact .refl p
    · rcases hmembers : askMembers members p with ⟨attempts | value, next, q⟩
      · rwa [hmembers] at hwalk
      · rwa [hmembers] at hwalk

theorem onlyWarned_askMembers (hsource : Mute σ) (members : List (Provider σ α)) {p : Platform}
    (h : Barred p) : p.OnlyWarned (askMembers members p).2.2 := by
  cases members with
  | nil => exact .refl p
  | cons member rest =>
    have hmember := onlyWarned_ask hsource member h
    rw [askMembers]
    rcases hask : member.ask p with ⟨e | - | value, next, q⟩
    all_goals rw [hask] at hmember
    · -- the others are asked after a warning, and the service is still barred then
      have hwarned := hmember.warn (warning (Provided.what α) (describe next) e)
      have hrest := onlyWarned_askMembers hsource rest (h.of_onlyWarned hwarned)
      exact hwarned.trans hrest
    · have hrest := onlyWarned_askMembers hsource rest (h.of_onlyWarned hmember)
      exact hmember.trans hrest
    · exact hmember

end

/-- A provider that has to have a value asks no one but its members. -/
theorem onlyWarned_resolve (hsource : Mute σ) (provider : Provider σ α) {p : Platform}
    (h : Barred p) : p.OnlyWarned (resolve.outcome (provider, p)).2.2 :=
  onlyWarned_askMembers hsource provider.members h

end Provider

/-! ### Clients -/

namespace ClientConfig

theorem onlyWarned_resolveRegion (h : Barred p) (c : ClientConfig) (profile : Section) :
    p.OnlyWarned ((c.resolveRegion profile).outcome p).2 := by
  rw [resolveRegion]
  split
  · exact .refl p
  · exact Provider.onlyWarned_askMembers RegionSource.mute (regionMembers profile) h

/-- **Where the metadata service is barred a client looks up its settings without sending.** -/
theorem onlyWarned_resolve {κ : Type} (h : Barred p) (c : ClientConfig) (serviceId : String) :
    p.OnlyWarned ((c.resolve (κ := κ) serviceId).outcome p).2 := by
  refine .bind (.refl p) fun _ q hq => ?_
  have hbarred := h.of_onlyWarned hq
  refine .bind (SharedConfig.onlyWarned_load c.profile q) fun config q hq => ?_
  refine .bind (onlyWarned_resolveRegion (hbarred.of_onlyWarned hq) c _) fun region q _ => ?_
  refine .bind (.refl q) fun _ q _ => ?_
  refine .bind (.refl q) fun retry q _ => ?_
  exact .bind (.refl q) fun endpoint q _ => .refl q

end ClientConfig

/-! ### Households -/

/-- Providers and metadata sources, any number of each, with whatever they keep. -/
structure Household where
  credentials : Nat → CredentialProvider (Nowhere Credential)
  regions : Nat → RegionProvider (Nowhere Region)
  clients : Nat → Metadata.Client
  locators : Nat → Metadata.Locator

namespace Household

/-- Whatever can be called. -/
inductive Call where
  /-- A provider of credentials. -/
  | credential (n : Nat)
  /-- A provider of regions. -/
  | region (n : Nat)
  /-- A provider of regions, which has to have one. -/
  | requiredRegion (n : Nat)
  /-- The metadata service, about the credential of the role. -/
  | roleCredential (n : Nat)
  /-- The metadata service, about the region. -/
  | instanceRegion (n : Nat)
  /-- A client of a service, about its settings. -/
  | settings (c : ClientConfig) (serviceId : String)

/-- What is answered. -/
inductive Answer where
  | credential (result : Except Error (Option Credential))
  | region (result : Except Error (Option Region))
  | requiredRegion (result : Except Error Region)
  | settings (result : Except Error (ResolvedConfig (Nowhere Credential)))

/-- A call, and the platform on which it is made. -/
structure Visit where
  call : Call
  platform : Platform

/-- What came of a call. -/
structure Record where
  visit : Visit
  answer : Answer
  /-- The platform as the call leaves it. -/
  left : Platform

/-- One call: the answer, and the household and the platform after it. -/
def call (household : Household) : Call → Platform → Answer × Household × Platform
  | .credential n, p =>
    let (result, provider, p) := (household.credentials n).ask p
    (.credential result,
      { household with credentials := Function.update household.credentials n provider }, p)
  | .region n, p =>
    let (result, provider, p) := (household.regions n).ask p
    (.region result, { household with regions := Function.update household.regions n provider }, p)
  | .requiredRegion n, p =>
    let (result, provider, p) := Provider.resolve.outcome (household.regions n, p)
    (.requiredRegion result,
      { household with regions := Function.update household.regions n provider }, p)
  | .roleCredential n, p =>
    let (result, client, p) := Metadata.fetchCredential.outcome (household.clients n, p)
    (.credential result,
      { household with clients := Function.update household.clients n client }, p)
  | .instanceRegion n, p =>
    let (result, locator, p) := Metadata.Locator.fetch.outcome (household.locators n, p)
    (.region result,
      { household with locators := Function.update household.locators n locator }, p)
  | .settings c serviceId, p =>
    let (result, p) := (c.resolve serviceId).outcome p
    (.settings result, household, p)

/-- What comes of calls that follow one another. -/
def run : Household → List Visit → List Record
  | _, [] => []
  | household, visit :: rest =>
    let (answer, next, left) := household.call visit.call visit.platform
    ⟨visit, answer, left⟩ :: next.run rest

/-- The metadata service was not asked: nothing was sent, nothing but warnings has happened to the
platform, and whoever speaks for the service declined. -/
structure Record.KeepsOff (record : Record) : Prop where
  sent : record.left.sent = record.visit.platform.sent
  onlyWarned : record.visit.platform.OnlyWarned record.left
  roleCredential : ∀ n, record.visit.call = .roleCredential n →
    ∃ result, record.answer = .credential result ∧ Declined record.visit.platform result
  instanceRegion : ∀ n, record.visit.call = .instanceRegion n →
    ∃ result, record.answer = .region result ∧ Declined record.visit.platform result

variable {household : Household} {visits : List Visit} {record : Record}

/-- Who does not speak for the service only has to leave the platform alone. -/
theorem Record.KeepsOff.of_onlyWarned
    (hwarned : record.visit.platform.OnlyWarned record.left)
    (hcredential : ∀ n, record.visit.call ≠ .roleCredential n)
    (hregion : ∀ n, record.visit.call ≠ .instanceRegion n) : record.KeepsOff where
  sent := hwarned.sent_eq
  onlyWarned := hwarned
  roleCredential n h := absurd h (hcredential n)
  instanceRegion n h := absurd h (hregion n)

/-- **One call where the metadata service is barred**, in whatever state the household is. -/
theorem keepsOff_call (household : Household) (call : Call) (h : Barred p) :
    Record.KeepsOff
      ⟨⟨call, p⟩, (household.call call p).1, (household.call call p).2.2⟩ := by
  cases call with
  | credential n =>
    have hwarned := (household.credentials n).onlyWarned_ask CredentialSource.mute h
    exact .of_onlyWarned hwarned (by rintro _ ⟨⟩) (by rintro _ ⟨⟩)
  | region n =>
    have hwarned := (household.regions n).onlyWarned_ask RegionSource.mute h
    exact .of_onlyWarned hwarned (by rintro _ ⟨⟩) (by rintro _ ⟨⟩)
  | requiredRegion n =>
    have hwarned := (household.regions n).onlyWarned_resolve RegionSource.mute h
    exact .of_onlyWarned hwarned (by rintro _ ⟨⟩) (by rintro _ ⟨⟩)
  | roleCredential n =>
    obtain ⟨answer, hdeclined, hfetch⟩ := h.fetchCredential (household.clients n)
    simp only [Household.call, hfetch]
    exact ⟨rfl, .refl p, fun _ _ => ⟨answer, rfl, hdeclined⟩, by rintro _ ⟨⟩⟩
  | instanceRegion n =>
    obtain ⟨answer, hdeclined, hfetch⟩ := h.fetch (household.locators n)
    simp only [Household.call, hfetch]
    exact ⟨rfl, .refl p, by rintro _ ⟨⟩, fun _ _ => ⟨answer, rfl, hdeclined⟩⟩
  | settings c serviceId =>
    have hwarned := c.onlyWarned_resolve (κ := Nowhere Credential) h serviceId
    exact .of_onlyWarned hwarned (by rintro _ ⟨⟩) (by rintro _ ⟨⟩)

/-- **Calls keep off wherever the metadata service is barred**: whatever was called before, in which
order and on which platforms, and whatever tokens, regions and credentials are kept by now. -/
theorem keepsOff_of_mem_run (hmem : record ∈ household.run visits)
    (hbarred : Barred record.visit.platform) : record.KeepsOff := by
  -- by induction on the calls; nothing has to be known about the household that is left
  induction visits generalizing household with
  | nil => cases hmem
  | cons visit rest ih =>
    obtain rfl | hlater := List.mem_cons.mp hmem
    · exact keepsOff_call household visit.call hbarred
    · exact ih hlater

/-! ### A household that is shut off -/

theorem map_visit_run (household : Household) (visits : List Visit) :
    (household.run visits).map (·.visit) = visits := by
  induction visits generalizing household with
  | nil => rfl
  | cons visit rest ih => exact congrArg (visit :: ·) (ih _)

/-- Something comes of every call. -/
theorem exists_mem_run (household : Household) (visit : Visit) (h : visit ∈ visits) :
    ∃ record ∈ household.run visits, record.visit = visit := by
  rw [← map_visit_run household visits] at h
  exact List.mem_map.mp h

/-- Providers and sources that were never called. -/
def fresh : Household where
  credentials _ := CredentialProvider.default none
  regions _ := RegionProvider.default none
  clients _ := {}
  locators _ := {}

/-- A machine on which the metadata service answers, and a variable that says something about it. -/
def machine (text : String) : Platform :=
  { Platform.ofUser [("AWS_EC2_METADATA_DISABLED", text)] [] with
    replies := some [.ok ⟨.ok, Utf8.ofString "token"⟩, .ok ⟨.ok, Utf8.ofString "us-east-2"⟩] }

theorem barred_machine (h : (Setting.readBool text).toOption ≠ some false) :
    Barred (machine text) := by
  have hsetting : Setting.metadataDisabled.read = Setting.readBool := by
    rw [Setting.metadataDisabled]
  have hread : Setting.metadataDisabled.read text ≠ .ok false := by
    rw [hsetting]
    exact fun hfalse => h (toOption_eq_some_iff.mpr hfalse)
  exact ⟨.environment, text, Setting.decides_environment rfl rfl, hread⟩

/-- The region is asked for while the service may be asked, when the variable has been set to
`true`, and when it has been set to a word that it cannot have. -/
def day : List Visit :=
  [⟨.instanceRegion 0, machine "false"⟩, ⟨.instanceRegion 0, machine "TRUE"⟩,
    ⟨.instanceRegion 0, machine "maybe"⟩]

/-- Two requests are sent for the region, which is kept; later calls keep off all the same. -/
theorem keepsOff_of_mem_run_day :
    ((fresh.run day).map fun record => record.left.sent.length) = [2, 0, 0] ∧
    (∃ record ∈ fresh.run day,
      record.visit = ⟨.instanceRegion 0, machine "TRUE"⟩ ∧ record.KeepsOff) ∧
    ∃ record ∈ fresh.run day,
      record.visit = ⟨.instanceRegion 0, machine "maybe"⟩ ∧ record.KeepsOff := by
  obtain ⟨off, hoff, hvisit⟩ :=
    exists_mem_run fresh ⟨.instanceRegion 0, machine "TRUE"⟩ (show _ ∈ day from .tail _ (.head _))
  obtain ⟨unread, hunread, hvisit'⟩ :=
    exists_mem_run fresh ⟨.instanceRegion 0, machine "maybe"⟩
      (show _ ∈ day from .tail _ (.tail _ (.head _)))
  have hbarred : Barred off.visit.platform := by
    rw [hvisit]
    exact barred_machine (by decide +kernel)
  have hbarred' : Barred unread.visit.platform := by
    rw [hvisit']
    exact barred_machine (by decide +kernel)
  refine ⟨by decide +kernel, ⟨off, hoff, hvisit, ?_⟩, unread, hunread, hvisit', ?_⟩
  · exact keepsOff_of_mem_run hoff hbarred
  · exact keepsOff_of_mem_run hunread hbarred'

end Household

end AwsSigning
