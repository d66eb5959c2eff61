/-
AwsSigning/Proofs/Provider/Asking.lean

Two providers asked side by side.

Sources are *asked alike* if on platforms that are alike they give the same
value, or neither gives one, and if they can be asked alike again
(`AskedAlike`).  Why a source has no value does not matter, and neither does
what it is called; so two profiles are asked alike if the same is loaded for
both.

A provider is a tree of sources, and asking it is a walk through the tree.
Trees of one shape whose sources are asked alike are asked alike themselves
(`Related.ask`): the two walks take the same turns, find the same value, and
keep it in the same cells.  By induction this holds however often they are
asked (`Related.afterAsks`), so they give alike (`Related.giveAlike`).

One and the same provider, whose sources are asked in lockstep, says even word
by word the same (`inStep_ask`).
-/
import Mathlib.Data.List.Forall2
import AwsSigning.Proofs.Platform
import AwsSigning.Provider

namespace AwsSigning

variable {σ σ' α : Type} {origin : Platform} {R : σ → σ' → Prop}

/-! ### Sources -/

/-- The value that was given, if there was one. -/
def given (result : Except Error (Option α)) : Option α := result.toOption.join

/-- Two answers with the same value or none, after which the sources are related and the platforms
are alike. -/
structure AnsweredAlike (origin : Platform) (R : σ → σ' → Prop)
    (x : Except Error (Option α) × σ × Platform) (y : Except Error (Option α) × σ' × Platform) :
    Prop where
  value : given x.1 = given y.1
  source : R x.2.1 y.2.1
  platform : origin.Alike x.2.2 y.2.2

/-- Related sources give the same value, or neither gives one, and they are related again. -/
def AskedAlike (origin : Platform) [Source σ α] [Source σ' α] (R : σ → σ' → Prop) : Prop :=
  ∀ s s' p p', R s s' → origin.Alike p p' →
    AnsweredAlike origin R (Source.ask.outcome (s, p)) (Source.ask.outcome (s', p'))

/-! ### Trees -/

namespace Provider

mutual

/-- Trees of one shape with related sources at their leaves. -/
inductive Related (R : σ → σ' → Prop) : Provider σ α → Provider σ' α → Prop
  | source {s : σ} {s' : σ'} (h : R s s') : Related R (.source s) (.source s')
  | chain (role : Role α) {members : List (Provider σ α)} {members' : List (Provider σ' α)}
      (h : RelatedMembers R members members') : Related R (.chain role members) (.chain role members')

/-- Lists of such trees. -/
inductive RelatedMembers (R : σ → σ' → Prop) : List (Provider σ α) → List (Provider σ' α) → Prop
  | nil : RelatedMembers R [] []
  | cons {member : Provider σ α} {member' : Provider σ' α} {rest : List (Provider σ α)}
      {rest' : List (Provider σ' α)} (h : Related R member member')
      (hrest : RelatedMembers R rest rest') : RelatedMembers R (member :: rest) (member' :: rest')

end

mutual

/-- A tree is related to itself if its sources are. -/
theorem Related.refl {R : σ → σ → Prop} (hR : ∀ s, R s s) :
    (provider : Provider σ α) → Related R provider provider
  | .source s => .source (hR s)
  | .chain role members => .chain role (RelatedMembers.refl hR members)

theorem RelatedMembers.refl {R : σ → σ → Prop} (hR : ∀ s, R s s) :
    (members : List (Provider σ α)) → RelatedMembers R members members
  | [] => .nil
  | member :: rest => .cons (Related.refl hR member) (RelatedMembers.refl hR rest)

end

/-! ### One walk -/

/-- An attempt more does not change the value. -/
theorem toOption_recordAttempt (attempt : Attempt) (found : Except (List Attempt) α) :
    (recordAttempt attempt found).toOption = found.toOption := by
  rcases found with attempts | value <;> rfl

section Walk

variable [Source σ α] [Provided α]

/-- A member that gives a value ends the walk. -/
theorem askMembers_of_given {member : Provider σ α} {p : Platform} {value : α}
    (h : given (member.ask p).1 = some value) (rest : List (Provider σ α)) :
    askMembers (member :: rest) p = (.ok value, (member.ask p).2.1 :: rest, (member.ask p).2.2) := by
  rw [askMembers]
  rcases hask : member.ask p with ⟨e | - | found, next, q⟩
  all_goals
    rw [hask] at h
    cases h
  rfl

/-- Behind a member that gives none the walk goes on, after a warning if the member failed. -/
theorem askMembers_of_not_given {member : Provider σ α} {p : Platform}
    (h : given (member.ask p).1 = none) (rest : List (Provider σ α)) :
    ∃ attempt q, (member.ask p).2.2.Warned q ∧
      askMembers (member :: rest) p
        = (recordAttempt attempt (askMembers rest q).1, (member.ask p).2.1 :: (askMembers rest q).2.1,
            (askMembers rest q).2.2) := by
  rcases hask : member.ask p with ⟨e | - | found, next, q⟩
  · refine ⟨⟨describe next, some e⟩, q.warn (warning (Provided.what α) (describe next) e),
      .inr ⟨_, rfl⟩, ?_⟩
    rw [askMembers, hask]
  · refine ⟨⟨describe next, none⟩, q, .inl rfl, ?_⟩
    rw [askMembers, hask]
  · rw [hask] at h
    cases h

/-- Behind a member that has none the walk finds what it finds without it. -/
theorem toOption_askMembers_of_none {member next : Provider σ α} {p q : Platform}
    (h : member.ask p = (.ok none, next, q)) (rest : List (Provider σ α)) :
    (askMembers (member :: rest) p).1.toOption = (askMembers rest q).1.toOption := by
  rw [askMembers, h]
  exact toOption_recordAttempt _ _

end Walk

/-! ### Two walks -/

variable [Source σ α] [Source σ' α] [Provided α]

/-- What the members of two chains did: the same value or none. -/
structure FoundAlike (origin : Platform) (R : σ → σ' → Prop)
    (x : Except (List Attempt) α × List (Provider σ α) × Platform)
    (y : Except (List Attempt) α × List (Provider σ' α) × Platform) : Prop where
  value : x.1.toOption = y.1.toOption
  members : RelatedMembers R x.2.1 y.2.1
  platform : origin.Alike x.2.2 y.2.2

mutual

/-- **Trees that are related are asked alike**, if the sources are. -/
theorem Related.ask (hR : AskedAlike origin R) {provider : Provider σ α} {provider' : Provider σ' α}
    (h : Related R provider provider') {p p' : Platform} (hp : origin.Alike p p') :
    AnsweredAlike origin (Related R) (provider.ask p) (provider'.ask p') := by
  cases h with
  | source h =>
    have hs := hR _ _ p p' h hp
    exact ⟨hs.value, .source hs.source, hs.platform⟩
  | @chain role members members' h =>
    rw [Provider.ask, Provider.ask, hp.now]
    split
    · -- the chain has kept a value, and what it kept depends on the time only
      exact ⟨rfl, .chain role h, hp⟩
    · have hfound := h.ask hR hp
      rcases hx : askMembers members p with ⟨found, next, q⟩
      rcases hy : askMembers members' p' with ⟨found', next', q'⟩
      rw [hx, hy] at hfound
      obtain ⟨hvalue, hmembers, hplatform⟩ := hfound
      rcases found with attempts | value <;> rcases found' with attempts' | value'
      case error.error =>
        refine ⟨?_, .chain role hmembers, hplatform⟩
        rcases role with - | - | - <;> rfl
      case ok.ok =>
        cases hvalue
        dsimp only at hmembers hplatform ⊢
        rw [hplatform.now]
        exact ⟨rfl, .chain _ hmembers, hplatform⟩
      all_goals cases hvalue

/-- The walks through related members find the same value, or neither finds one. -/
theorem RelatedMembers.ask (hR : AskedAlike origin R) {members : List (Provider σ α)}
    {members' : List (Provider σ' α)} (h : RelatedMembers R members members') {p p' : Platform}
    (hp : origin.Alike p p') :
    FoundAlike origin R (askMembers members p) (askMembers members' p') := by
  cases h with
  | nil => exact ⟨rfl, .nil, hp⟩
  | @cons member member' rest rest' h hrest =>
    have hanswer := h.ask hR hp
    rcases hgiven : given (member.ask p).1 with - | value
    · -- one of the two may have failed and been warned about, and the other not
      have hgiven' : given (member'.ask p').1 = none := hanswer.value.symm.trans hgiven
      obtain ⟨attempt, q, hq, hwalk⟩ := askMembers_of_not_given hgiven rest
      obtain ⟨attempt', q', hq', hwalk'⟩ := askMembers_of_not_given hgiven' rest'
      have hfound := hrest.ask hR (hanswer.platform.warned hq hq')
      rw [hwalk, hwalk']
      refine ⟨?_, .cons hanswer.source hfound.members, hfound.platform⟩
      rw [toOption_recordAttempt, toOption_recordAttempt, hfound.value]
    · rw [askMembers_of_given hgiven, askMembers_of_given (hanswer.value.symm.trans hgiven)]
      exact ⟨rfl, .cons hanswer.source hrest, hanswer.platform⟩

end

/-! ### One provider on two platforms -/

section InStep

variable {A : Platform → Platform → Prop}

/-- Two outcomes are the same, and the platforms after them are related. -/
structure InStep {β γ : Type} (A : Platform → Platform → Prop) (x y : β × γ × Platform) : Prop where
  result : x.1 = y.1
  state : x.2.1 = y.2.1
  platform : A x.2.2 y.2.2

mutual

/-- **A provider is asked in step on related platforms**, if its sources are, and if these platforms
show the same time and stay related when a warning is given. -/
theorem inStep_ask (hnow : ∀ p p', A p p' → p.now = p'.now)
    (hwarn : ∀ p p' text, A p p' → A (p.warn text) (p'.warn text))
    (hsource : (Source.ask : Operation (σ × Platform) (Option α)).Lockstep (Beside A) Eq Source.ask)
    (provider : Provider σ α) {p p' : Platform} (h : A p p') :
    InStep A (provider.ask p) (provider.ask p') := by
  cases provider with
  | source s =>
    obtain ⟨hend, hstate, hplatform⟩ := hsource (s, p) (s, p') ⟨rfl, h⟩
    exact ⟨hend.eq, congrArg Provider.source hstate, hplatform⟩
  | chain role members =>
    have hwalk := inStep_askMembers hnow hwarn hsource members h
    rw [ask, ask, hnow p p' h]
    rcases hx : askMembers members p with ⟨found, next, q⟩
    rcases hy : askMembers members p' with ⟨found', next', q'⟩
    rw [hx, hy] at hwalk
    obtain ⟨rfl, rfl, hq⟩ := hwalk
    split
    · exact ⟨rfl, rfl, h⟩
    · rcases found with attempts | value
      · exact ⟨rfl, rfl, hq⟩
      · exact ⟨rfl, by simp only [hnow q q' hq], hq⟩

theorem inStep_askMembers (hnow : ∀ p p', A p p' → p.now = p'.now)
    (hwarn : ∀ p p' text, A p p' → A (p.warn text) (p'.warn text))
    (hsource : (Source.ask : Operation (σ × Platform) (Option α)).Lockstep (Beside A) Eq Source.ask)
    (members : List (Provider σ α)) {p p' : Platform} (h : A p p') :
    InStep A (askMembers members p) (askMembers members p') := by
  cases members with
  | nil => exact ⟨rfl, rfl, h⟩
  | cons member rest =>
    have hmember := inStep_ask hnow hwarn hsource member h
    rw [askMembers, askMembers]
    rcases hx : member.ask p with ⟨result, next, q⟩
    rcases hy : member.ask p' with ⟨result', next', q'⟩
    rw [hx, hy] at hmember
    obtain ⟨rfl, rfl, hq⟩ := hmember
    rcases result with e | - | value
    · have hrest := inStep_askMembers hnow hwarn hsource rest (hwarn q q'
        (warning (Provided.what α) (describe next) e) hq)
      exact ⟨by simp only [hrest.result], by simp only [hrest.state], hrest.platform⟩
    · have hrest := inStep_askMembers hnow hwarn hsource rest hq
      exact ⟨by simp only [hrest.result], by simp only [hrest.state], hrest.platform⟩
    · exact ⟨rfl, rfl, hq⟩

end

end InStep

/-! ### Asking again and again -/

/-- The provider after it was asked on some platforms, one after the other. -/
def afterAsks (provider : Provider σ α) (platforms : List Platform) : Provider σ α :=
  platforms.foldl (fun provider p => (provider.ask p).2.1) provider

/-- **However often they are asked**, providers that are asked alike are asked alike again. -/
theorem Related.afterAsks (hR : AskedAlike origin R) {provider : Provider σ α}
    {provider' : Provider σ' α} {platforms platforms' : List Platform}
    (h : Related R provider provider') (hp : List.Forall₂ origin.Alike platforms platforms') :
    Related R (provider.afterAsks platforms) (provider'.afterAsks platforms') := by
  induction hp generalizing provider provider' with
  | nil => exact h
  | cons hp _ ih => exact ih (h.ask hR hp).source

/-- Two providers give the same value, or neither gives one, whenever they are asked: after they
were asked on any platforms that are alike pair by pair, and on any two that are alike now. -/
def GiveAlike (origin : Platform) (provider : Provider σ α) (provider' : Provider σ' α) : Prop :=
  ∀ platforms platforms', List.Forall₂ origin.Alike platforms platforms' →
  ∀ p p', origin.Alike p p' →
    given ((provider.afterAsks platforms).ask p).1 = given ((provider'.afterAsks platforms').ask p').1

theorem Related.giveAlike (hR : AskedAlike origin R) {provider : Provider σ α}
    {provider' : Provider σ' α} (h : Related R provider provider') :
    GiveAlike origin provider provider' :=
  fun _ _ hplatforms _ _ hp => ((h.afterAsks hR hplatforms).ask hR hp).value

end Provider

end AwsSigning
