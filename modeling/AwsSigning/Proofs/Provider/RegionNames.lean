/-
AwsSigning/Proofs/Provider/RegionNames.lean

Regions without a name.

A region in the process or in a profile that is blank counts as none, so the
chain passes it over.  The metadata service is believed whatever it says: what
it tells is trimmed and taken for the name of a region, and a locator keeps it
for ever (`Metadata.Locator.fetch_spec`).

So only what was told first matters (`firstTold?`).  If it was blank, the
region has no name, today and whenever the process and the profile have none;
if it was not, no region without a name is ever found.  This is the only way
to one, for the default provider however it was used before as well as for a
client (`Region.isBlank_iff_of_found`).
-/
import AwsSigning.Proofs.Client
import AwsSigning.Proofs.Provider.Nesting
import AwsSigning.Proofs.Text.Blank

namespace AwsSigning

open Operation Provider

variable {profile? : Option String} {p q : Platform} {region : Region}

/-! ### Names that are passed over -/

namespace Region

/-- The name of a region holds nothing but white space. -/
def IsBlank (region : Region) : Prop := Text.isBlankText region.name.toList = true

/-- A blank name names no region, and every other name does. -/
theorem ofName?_eq_none_iff {name : String} :
    ofName? name = none ↔ Text.isBlankText name.toList = true := by
  simp [ofName?]

theorem not_isBlank_of_ofName? {name : String} (h : ofName? name = some region) :
    ¬region.IsBlank := by
  intro hblank
  unfold ofName? at h
  split at h
  · cases h
  · next hname =>
    cases h
    exact hname hblank

/-- **A blank text in the process counts as none.** -/
theorem ofProcess_eq_none_iff :
    ofProcess p = .ok none ↔ ∀ name, Setting.region.resolveFromProcess p = .ok (some name) →
      Text.isBlankText name.toList = true := by
  obtain ⟨text?, htext⟩ := Setting.exists_resolve_of_readText (s := Setting.region) rfl p none
  have hprocess : Setting.region.resolveFromProcess p = .ok text? := htext
  rw [ofProcess, hprocess]
  rcases text? with - | name
  · simp [Except.map]
  · simp [Except.map, ofName?_eq_none_iff]

/-- **A blank text in a profile counts as none.** -/
theorem given_ofSharedConfig_eq_none_iff :
    given ((ofSharedConfig profile?).outcome p).1 = none ↔
      ∀ config loaded, (SharedConfig.load profile?).outcome p = (.ok config, loaded) →
        ∀ name ∈ config.activeProfile.get? "region", Text.isBlankText name.toList = true := by
  rw [ofSharedConfig, outcome_bind]
  rcases (SharedConfig.load profile?).outcome p with ⟨e | config, loaded⟩
  · simp [given, Except.toOption]
  · rcases hname : config.activeProfile.get? "region" with - | name
    · simp [given, Except.toOption, ofProfile?, hname]
    · simp [given, Except.toOption, ofProfile?, hname, ofName?_eq_none_iff]

/-- The process has no region without a name. -/
theorem not_isBlank_of_ofProcess (h : ofProcess p = .ok (some region)) : ¬region.IsBlank := by
  rw [ofProcess] at h
  rcases htext : Setting.region.resolveFromProcess p with e | text?
  · rw [htext] at h
    cases h
  · rw [htext] at h
    obtain ⟨name, -, hname⟩ := Option.bind_eq_some_iff.mp (Except.ok.inj h)
    exact not_isBlank_of_ofName? hname

/-- A profile has none either. -/
theorem not_isBlank_of_ofSharedConfig
    (h : given ((ofSharedConfig profile?).outcome p).1 = some region) : ¬region.IsBlank := by
  rw [given, Option.join_eq_some_iff, toOption_eq_some_iff] at h
  obtain ⟨config, loaded, -, hconfig⟩ := outcome_bind_eq_ok_iff.mp (Prod.ext h rfl)
  obtain ⟨name, -, hname⟩ :=
    Option.bind_eq_some_iff.mp (Except.ok.inj (Prod.mk.inj hconfig).1)
  exact not_isBlank_of_ofName? hname

end Region

/-! ### The metadata service -/

namespace Metadata.Locator

variable {locator : Locator} {text? : Option String}

/-- The region that a text names. -/
def named (text : String) : Region := ⟨String.ofList (Text.trim text.toList)⟩

theorem isBlank_named_iff (text : String) :
    (named text).IsBlank ↔ Text.isBlankText text.toList = true := by
  rw [Region.IsBlank, named, String.toList_ofList, Text.isBlankText_trim]

/-- What the service tells a locator that keeps no region yet, if it may be asked and answers. -/
def told? (locator : Locator) (p : Platform) : Option String :=
  match isDisabled p, locator.region.entry with
  | .ok false, none => ((Client.fetch regionPath).outcome (locator.client, p)).1.toOption
  | _, _ => none

/-- The locator keeps what a text names, and for ever, or it keeps nothing. -/
def Keeps (text? : Option String) (locator : Locator) : Prop :=
  locator.region.entry = text?.map fun text => ⟨named text, none⟩

/-- A locator that may not ask, or fails to find out, does nothing. -/
theorem fetch_of_not_allowed (h : isDisabled p ≠ .ok false) :
    (fetch.outcome (locator, p)).2.1 = locator ∧ given (fetch.outcome (locator, p)).1 = none := by
  simp only [fetch, outcome_bind, outcome_get, outcome_ofExcept]
  rcases hdisabled : isDisabled p with e | - | -
  · exact ⟨rfl, rfl⟩
  · exact absurd hdisabled h
  · exact ⟨rfl, rfl⟩

theorem fetch_of_allowed (hallowed : isDisabled p = .ok false) :
    fetch.outcome (locator, p) =
      let found := (Cached.getOrLoad (·.1.region) (fun cell s => ({ s.1 with region := cell }, s.2))
        (·.2.now) load).outcome (locator, p)
      (found.1.map some, found.2) := by
  simp only [fetch, outcome_bind, outcome_get, outcome_ofExcept, hallowed, Bool.false_eq_true,
    if_false, outcome_map]

/-- A locator that may ask gives the region that it keeps. -/
theorem fetch_of_kept (hallowed : isDisabled p = .ok false)
    (h : locator.region.get? p.now = some region) :
    fetch.outcome (locator, p) = (.ok (some region), locator, p) := by
  rw [fetch_of_allowed hallowed, Cached.outcome_getOrLoad, h]
  rfl

/-- If it keeps none, it asks the service, and keeps what it is told. -/
theorem fetch_of_empty (hallowed : isDisabled p = .ok false)
    (h : locator.region.get? p.now = none) :
    fetch.outcome (locator, p) =
      match (Client.fetch regionPath).outcome (locator.client, p) with
      | (.ok text, client, q) =>
        (.ok (some (named text)), ⟨client, locator.region.install ⟨named text, none⟩⟩, q)
      | (.error e, client, q) => (.error e, { locator with client }, q) := by
  rw [fetch_of_allowed hallowed, Cached.outcome_getOrLoad, h]
  simp only [load, outcome_focus, outcome_bind, outcome_pure]
  rcases (Client.fetch regionPath).outcome (locator.client, p) with ⟨e | text, client, q⟩ <;> rfl

/-- **A locator gives what it was told first**, and goes on to keep it. -/
theorem fetch_spec (h : Keeps text? locator) (p : Platform) :
    Keeps (text?.or (locator.told? p)) (fetch.outcome (locator, p)).2.1 ∧
      ∀ region, given (fetch.outcome (locator, p)).1 = some region →
        ∃ text, text?.or (locator.told? p) = some text ∧ region = named text := by
  by_cases hallowed : isDisabled p = .ok false
  · rcases text? with - | text
    · have hempty : locator.region.get? p.now = none := by rw [Cached.get?, h]; rfl
      have htold : locator.told? p
          = ((Client.fetch regionPath).outcome (locator.client, p)).1.toOption := by
        rw [told?, hallowed, h]
        rfl
      rw [Option.none_or, htold, fetch_of_empty hallowed hempty]
      rcases (Client.fetch regionPath).outcome (locator.client, p) with ⟨e | text, client, q⟩
      · exact ⟨h, by rintro region ⟨⟩⟩
      · refine ⟨rfl, ?_⟩
        rintro region ⟨⟩
        exact ⟨text, rfl, rfl⟩
    · -- what is kept never expires
      have hkept : locator.region.get? p.now = some (named text) := by rw [Cached.get?, h]; rfl
      rw [fetch_of_kept hallowed hkept]
      refine ⟨h, ?_⟩
      rintro region ⟨⟩
      exact ⟨text, rfl, rfl⟩
  · obtain ⟨hlocator, hgiven⟩ := fetch_of_not_allowed hallowed
    have htold : locator.told? p = none := by
      unfold told?
      split
      · next hdisabled _ => exact absurd hdisabled hallowed
      · rfl
    rw [hlocator, hgiven, htold, Option.or_none]
    exact ⟨h, by rintro region ⟨⟩⟩

end Metadata.Locator

/-! ### The chain -/

namespace RegionProvider

open Metadata (Locator)

variable {locator : Locator} {text? : Option String}

/-- What is asked before the metadata service. -/
def front (profile? : Option String) : List (RegionProvider (Nowhere Region)) :=
  [.source .process, .source (.profile profile?)]

/-- The default provider, with a locator that may have been at work. -/
def withLocator (profile? : Option String) (locator : Locator) : RegionProvider (Nowhere Region) :=
  named (front profile? ++ [.source (.metadata locator)])

/-- Neither the process nor the profile has a region, or what they have is blank. -/
structure Silent (profile? : Option String) (p : Platform) : Prop where
  process : ∀ name, Setting.region.resolveFromProcess p = .ok (some name) →
    Text.isBlankText name.toList = true
  profile : ∀ config loaded, (SharedConfig.load profile?).outcome p = (.ok config, loaded) →
    ∀ name ∈ config.activeProfile.get? "region", Text.isBlankText name.toList = true

theorem silent_iff : Silent profile? p ↔
    Region.ofProcess p = .ok none ∧ given ((Region.ofSharedConfig profile?).outcome p).1 = none := by
  rw [Region.ofProcess_eq_none_iff, Region.given_ofSharedConfig_eq_none_iff]
  exact ⟨fun h => ⟨h.process, h.profile⟩, fun h => ⟨h.1, h.2⟩⟩

/-- The process is enough if it has a region. -/
theorem askMembers_front_of_some (h : Region.ofProcess p = .ok (some region)) :
    askMembers (front profile?) p = (.ok region, front profile?, p) := by
  rw [front, askMembers, ask_process h]

/-- If it has none, the profile decides. -/
theorem askMembers_front_of_none (h : Region.ofProcess p = .ok none) :
    (askMembers (front profile?) p).2.1 = front profile? ∧
      (askMembers (front profile?) p).1.toOption
        = given ((Region.ofSharedConfig profile?).outcome p).1 := by
  obtain ⟨hmembers, hfound⟩ :=
    askMembers_alone (σ := RegionSource (Nowhere Region)) (α := Region) (.profile profile?) p
  rw [front, askMembers, ask_process h]
  dsimp only
  rw [hmembers, toOption_recordAttempt, hfound]
  exact ⟨rfl, rfl⟩

/-- **What is asked before the metadata service gives no region without a name**, and one with a
name unless there is none. -/
theorem askMembers_front (profile? : Option String) (p : Platform) :
    (askMembers (front profile?) p).2.1 = front profile? ∧
      match (askMembers (front profile?) p).1 with
      | .ok region => ¬region.IsBlank ∧ ¬Silent profile? p
      | .error _ => Silent profile? p := by
  obtain ⟨region?, hprocess⟩ := Region.exists_ofProcess p
  rw [silent_iff, hprocess]
  rcases region? with - | region
  · obtain ⟨hmembers, hfound⟩ := @askMembers_front_of_none profile? p hprocess
    refine ⟨hmembers, ?_⟩
    rw [← hfound]
    split
    · next region hregion =>
      rw [hregion] at hfound ⊢
      refine ⟨?_, by rintro ⟨-, ⟨⟩⟩⟩
      exact Region.not_isBlank_of_ofSharedConfig hfound.symm
    · next hregion =>
      rw [hregion]
      exact ⟨rfl, rfl⟩
  · rw [askMembers_front_of_some hprocess]
    exact ⟨rfl, Region.not_isBlank_of_ofProcess hprocess, by rintro ⟨⟨⟩, -⟩⟩

/-- What the metadata service tells the chain, if the chain gets there. -/
def told? (profile? : Option String) (locator : Locator) (p : Platform) : Option String :=
  match askMembers (front profile?) p with
  | (.ok _, _, _) => none
  | (.error _, _, q) => locator.told? q

/-- The locator after the chain has been asked. -/
def locatorAfter (profile? : Option String) (locator : Locator) (p : Platform) : Locator :=
  match askMembers (front profile?) p with
  | (.ok _, _, _) => locator
  | (.error _, _, q) => (Locator.fetch.outcome (locator, q)).2.1

/-- **One walk along the chain.**  It changes the locator only, which keeps what it was told first;
and the region that is found has no name exactly if the metadata service had to be asked, and that
was blank. -/
theorem askMembers_withLocator (h : Locator.Keeps text? locator) (p : Platform) :
    let walk := askMembers (front profile? ++ [.source (.metadata locator)]) p
    walk.2.1 = front profile? ++ [.source (.metadata (locatorAfter profile? locator p))] ∧
      Locator.Keeps (text?.or (told? profile? locator p)) (locatorAfter profile? locator p) ∧
      ∀ region, walk.1 = .ok region →
        (region.IsBlank ↔ Silent profile? p ∧ ∃ text,
          text?.or (told? profile? locator p) = some text ∧
            Text.isBlankText text.toList = true) := by
  obtain ⟨hmembers, hfront⟩ := askMembers_front profile? p
  rw [askMembers_append, told?, locatorAfter]
  rcases hwalk : askMembers (front profile?) p with ⟨attempts | named, members, q⟩
  · -- the metadata service is asked, on the platform that the others have left
    rw [hwalk] at hmembers hfront
    dsimp only at hmembers hfront ⊢
    subst hmembers
    obtain ⟨hkeeps, hgiven⟩ := Locator.fetch_spec h q
    obtain ⟨hlocator, hfound⟩ :=
      askMembers_alone (σ := RegionSource (Nowhere Region)) (α := Region) (.metadata locator) q
    refine ⟨by rw [hlocator]; rfl, hkeeps, ?_⟩
    intro region hregion
    have htold : given (Locator.fetch.outcome (locator, q)).1 = some region := by
      refine hfound.symm.trans ?_
      rw [← toOption_mapError (attempts ++ ·), hregion]
      rfl
    obtain ⟨text, htext, rfl⟩ := hgiven region htold
    rw [Locator.isBlank_named_iff, htext]
    simp [hfront]
  · rw [hwalk] at hmembers hfront
    dsimp only at hmembers hfront ⊢
    subst hmembers
    refine ⟨rfl, by rwa [Option.or_none], ?_⟩
    rintro region ⟨⟩
    exact iff_of_false hfront.1 fun hsilent => hfront.2 hsilent.1

/-! ### Asking again and again -/

/-- What the metadata service told the chain first, on some platforms on which the chain was asked
one after the other. -/
def firstTold? (profile? : Option String) : Locator → List Platform → Option String
  | _, [] => none
  | locator, p :: platforms =>
    (told? profile? locator p).or (firstTold? profile? (locatorAfter profile? locator p) platforms)

theorem firstTold?_concat (locator : Locator) (platforms : List Platform) (p : Platform) :
    firstTold? profile? locator (platforms ++ [p]) =
      (firstTold? profile? locator platforms).or
        (told? profile? (platforms.foldl (locatorAfter profile?) locator) p) := by
  induction platforms generalizing locator with
  | nil => simp [firstTold?]
  | cons q platforms ih => rw [List.cons_append, firstTold?, firstTold?, ih, Option.or_assoc]; rfl

/-- The default provider after it was used on some platforms, one after the other: asked for a
region, or resolved, which insists on one. -/
inductive Used (profile? : Option String) :
    List Platform → RegionProvider (Nowhere Region) → Prop
  | new : Used profile? [] (default profile?)
  | ask {platforms : List Platform} {provider : RegionProvider (Nowhere Region)} (p : Platform)
      (h : Used profile? platforms provider) :
      Used profile? (platforms ++ [p]) (provider.ask p).2.1
  | resolve {platforms : List Platform} {provider : RegionProvider (Nowhere Region)} (p : Platform)
      (h : Used profile? platforms provider) :
      Used profile? (platforms ++ [p]) (Provider.resolve.outcome (provider, p)).2.1

/-- Both ways of using a chain that goes by a name leave it with the members that a walk leaves. -/
theorem left_named (members : List (RegionProvider (Nowhere Region))) (p : Platform) :
    ((named members).ask p).2.1 = named (askMembers members p).2.1 ∧
      (Provider.resolve.outcome (named members, p)).2.1 = named (askMembers members p).2.1 := by
  rw [named, Provider.ask]
  rcases hwalk : askMembers members p with ⟨attempts | region, after, q⟩ <;>
    simp [Role.kept?, Role.keep, Provider.resolve, Provider.members, withMembers, hwalk, named]

/-- What a walk leaves after some others. -/
theorem walked_concat {platforms : List Platform}
    (h : Locator.Keeps (firstTold? profile? {} platforms)
      (platforms.foldl (locatorAfter profile?) {})) (p : Platform) :
    let locator := platforms.foldl (locatorAfter profile?) {}
    let left := (platforms ++ [p]).foldl (locatorAfter profile?) {}
    named (askMembers (front profile? ++ [.source (.metadata locator)]) p).2.1
        = withLocator profile? left ∧
      Locator.Keeps (firstTold? profile? {} (platforms ++ [p])) left := by
  intro locator left
  obtain ⟨hmembers, hkept, -⟩ := @askMembers_withLocator profile? _ _ h p
  have hleft : left = locatorAfter profile? locator p := List.foldl_concat ..
  rw [hleft, firstTold?_concat, withLocator, hmembers]
  exact ⟨rfl, hkept⟩

/-- **However it is used, the default provider keeps what it was told first**, and nothing else about
it changes. -/
theorem Used.spec {platforms : List Platform} {provider : RegionProvider (Nowhere Region)}
    (h : Used profile? platforms provider) :
    provider = withLocator profile? (platforms.foldl (locatorAfter profile?) {}) ∧
      Locator.Keeps (firstTold? profile? {} platforms)
        (platforms.foldl (locatorAfter profile?) {}) := by
  -- by induction on the uses: what is kept is what was told first, up to now
  induction h with
  | new => exact ⟨rfl, rfl⟩
  | ask p h ih =>
    obtain ⟨rfl, hkeeps⟩ := ih
    rw [withLocator, (left_named _ p).1]
    exact walked_concat hkeeps p
  | resolve p h ih =>
    obtain ⟨rfl, hkeeps⟩ := ih
    rw [withLocator, (left_named _ p).2]
    exact walked_concat hkeeps p

/-- What is resolved has no name exactly if the process and the profile have none, and what the
metadata service told first is blank. -/
theorem Used.isBlank_iff {platforms : List Platform} {provider : RegionProvider (Nowhere Region)}
    (hused : Used profile? platforms provider)
    (h : (Provider.resolve.outcome (provider, p)).1 = .ok region) :
    region.IsBlank ↔ Silent profile? p ∧ ∃ text,
      firstTold? profile? {} (platforms ++ [p]) = some text ∧
        Text.isBlankText text.toList = true := by
  obtain ⟨rfl, hkeeps⟩ := hused.spec
  obtain ⟨-, -, hblank⟩ := @askMembers_withLocator profile? _ _ hkeeps p
  rw [firstTold?_concat]
  simp only [Provider.resolve, outcome_of, withLocator, named, Provider.members] at h
  exact hblank region (mapError_eq_ok_iff.mp h)

end RegionProvider

/-! ### Clients -/

/-- A client that fixes no region has the one that the default provider finds. -/
theorem ClientConfig.ofDefault_of_resolve {κ : Type} {c : ClientConfig} {serviceId : String}
    {resolved : ResolvedConfig κ} (hopen : c.region = none)
    (h : ((c.resolve serviceId).outcome p).1 = .ok resolved) :
    Region.ofDefault c.profile p = .ok ⟨resolved.region⟩ := by
  obtain ⟨-, config, loaded, hload, hregion, -⟩ := exists_of_resolve (Prod.ext h rfl)
  -- nothing else that the client fixes has to do with its region
  have hsame : c.resolveRegion config.activeProfile
      = ({ profile := c.profile } : ClientConfig).resolveRegion config.activeProfile := by
    rw [resolveRegion, resolveRegion, hopen]
  rw [hsame] at hregion
  exact (resolveRegion_eq_ok_iff hload).mp (congrArg Prod.fst hregion)

/-! ### Regions that are found -/

namespace Region

/-- A region that is found on a platform: by the default provider, however it was used on others
before, or by a client that fixes none. -/
inductive Found : Option String → List Platform → Platform → Region → Prop
  | provider {profile? : Option String} {platforms : List Platform} {p : Platform} {region : Region}
      {provider : RegionProvider (Nowhere Region)}
      (hused : RegionProvider.Used profile? platforms provider)
      (h : (resolve.outcome (provider, p)).1 = .ok region) : Found profile? platforms p region
  | client {κ : Type} {c : ClientConfig} {serviceId : String} {p : Platform}
      {resolved : ResolvedConfig κ} (hopen : c.region = none)
      (h : ((c.resolve serviceId).outcome p).1 = .ok resolved) :
      Found c.profile [] p ⟨resolved.region⟩

/-- **A region that is found has no name exactly if neither the process nor the profile has one, and
what the metadata service told first is blank.** -/
theorem isBlank_iff_of_found {platforms : List Platform} (h : Found profile? platforms p region) :
    region.IsBlank ↔ RegionProvider.Silent profile? p ∧ ∃ text,
      RegionProvider.firstTold? profile? {} (platforms ++ [p]) = some text ∧
        Text.isBlankText text.toList = true := by
  cases h with
  | provider hused h => exact hused.isBlank_iff h
  | client hopen h =>
    exact RegionProvider.Used.new.isBlank_iff (ClientConfig.ofDefault_of_resolve hopen h)

/-- A machine without settings, on which the metadata service tells a blank region. -/
def unnamedPlatform : Platform :=
  { Platform.ofUser [] [] with
    replies := some [.ok ⟨.ok, Utf8.ofString "token"⟩, .ok ⟨.ok, Utf8.ofString " \n"⟩] }

/-- The same machine an hour later, when nothing answers any more. -/
def laterPlatform : Platform := { unnamedPlatform with now := ⟨3600, 0⟩, replies := none }

/-- The region without a name is still found an hour later. -/
theorem isBlank_iff_of_found_later :
    Found none [unnamedPlatform] laterPlatform ⟨""⟩ ∧
    RegionProvider.Silent none laterPlatform ∧ ∃ text,
      RegionProvider.firstTold? none {} [unnamedPlatform, laterPlatform] = some text ∧
        Text.isBlankText text.toList = true := by
  have hfound : Found none [unnamedPlatform] laterPlatform ⟨""⟩ :=
    .provider (.resolve _ .new) (toOption_eq_some_iff.mp (by decide +kernel))
  exact ⟨hfound, (isBlank_iff_of_found hfound).mp rfl⟩

/-- The default provider and a client find a region without a name, where only the metadata service
has one to tell. -/
theorem exists_found_blank :
    (∃ region, Found none [] unnamedPlatform region ∧ region.IsBlank) ∧
    ∃ resolved : ResolvedConfig (Nowhere Credential),
      ((({} : ClientConfig).resolve "s3").outcome unnamedPlatform).1 = .ok resolved ∧
        IsBlank ⟨resolved.region⟩ := by
  have hfound : Found none [] unnamedPlatform ⟨""⟩ :=
    .provider .new (toOption_eq_some_iff.mp (by decide +kernel))
  have hregion : ((({} : ClientConfig).resolve (κ := Nowhere Credential) "s3").outcome
      unnamedPlatform).1.toOption.map (·.region) = some "" := by decide +kernel
  obtain ⟨resolved, hresolved, hname⟩ := Option.map_eq_some_iff.mp hregion
  refine ⟨⟨_, hfound, rfl⟩, resolved, toOption_eq_some_iff.mp hresolved, ?_⟩
  rw [hname]
  rfl

end Region

end AwsSigning
