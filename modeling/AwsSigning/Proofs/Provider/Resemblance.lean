/-
AwsSigning/Proofs/Provider/Resemblance.lean

Two providers that cannot be told apart from outside.

The sources of two trees may hold different values, of which only a part is to
be seen.  If sources are described alike, and give values of which the same is
to be seen, or fail with the same error (`Resembling`), then the same holds of
trees of one shape with such sources at their leaves and such values in their
cells (`Resembles`): they are described alike (`Resembles.describe_eq`), and
whoever asks them finds no difference but in the values (`Resembles.ask`).
Above all the report of a chain in which nobody had a value is the same for
both, word by word (`lockstep_resolve`).

The relation between values has to fix when a value expires, since a cell goes
by that.
-/
import AwsSigning.Proofs.Lockstep
import AwsSigning.Provider

namespace AwsSigning

variable {σ σ' α : Type} {V : α → α → Prop} {R : σ → σ' → Prop}

/-! ### Cells and chains -/

/-- Two entries with related values that expire at the same time. -/
structure Entry.Resembles (V : α → α → Prop) (entry entry' : Entry α) : Prop where
  value : V entry.value entry'.value
  expiry : entry.expiry = entry'.expiry

/-- Two chains of one kind that go by one name, and what they have kept. -/
inductive Role.Resembles (V : α → α → Prop) : Role α → Role α → Prop
  | plain : Resembles V .plain .plain
  | named (name : String) : Resembles V (.named name) (.named name)
  | keeping (name : String) (margin : Duration) {entry entry' : Option (Entry α)}
      (h : Option.Rel (Entry.Resembles V) entry entry') :
      Resembles V (.keeping name ⟨margin, entry⟩) (.keeping name ⟨margin, entry'⟩)

namespace Role.Resembles

variable {role role' : Role α}

theorem describe_eq (h : Role.Resembles V role role') (members : List String) :
    role.describe members = role'.describe members := by
  cases h with
  | plain => rfl
  | named name => rfl
  | keeping name margin h =>
    have hexpiry : ∀ {entry entry' : Option (Entry α)},
        Option.Rel (Entry.Resembles V) entry entry' →
          entry.map (·.expiry) = entry'.map (·.expiry) := by
      rintro _ _ (h | -)
      · exact congrArg some h.expiry
      · rfl
    simp only [Role.describe, Cached.describe, hexpiry h]

/-- What two chains have kept is good for the same time. -/
theorem kept? (h : Role.Resembles V role role') (now : Instant) :
    Option.Rel V (role.kept? now) (role'.kept? now) := by
  cases h with
  | plain => exact .none
  | named name => exact .none
  | keeping name margin h =>
    rcases h with @⟨entry, entry', h⟩ | -
    · have hfresh : Cached.fresh margin entry now = Cached.fresh margin entry' now := by
        rw [Cached.fresh, Cached.fresh, h.expiry]
      rw [Role.kept?, Role.kept?, Cached.get?, Cached.get?]
      dsimp only
      rw [hfresh]
      rcases Cached.fresh margin entry' now with - | -
      · exact .none
      · exact .some h.value
    · exact .none

theorem keep [Provided α] (h : Role.Resembles V role role') {value value' : α}
    (hvalue : V value value') (hexpiry : Provided.expiry value = Provided.expiry value')
    (now : Instant) : Role.Resembles V (role.keep value now) (role'.keep value' now) := by
  cases h with
  | plain => exact .plain
  | named name => exact .named name
  | keeping name margin _ =>
    refine .keeping name margin (.some ⟨hvalue, ?_⟩)
    rw [hexpiry]

end Role.Resembles

/-! ### Trees -/

namespace Provider

mutual

/-- Trees of one shape with related sources at their leaves and related values in their cells. -/
inductive Resembles (R : σ → σ' → Prop) (V : α → α → Prop) :
    Provider σ α → Provider σ' α → Prop
  | source {s : σ} {s' : σ'} (h : R s s') : Resembles R V (.source s) (.source s')
  | chain {role role' : Role α} {members : List (Provider σ α)} {members' : List (Provider σ' α)}
      (hrole : Role.Resembles V role role') (h : MembersResemble R V members members') :
      Resembles R V (.chain role members) (.chain role' members')

/-- Lists of such trees. -/
inductive MembersResemble (R : σ → σ' → Prop) (V : α → α → Prop) :
    List (Provider σ α) → List (Provider σ' α) → Prop
  | nil : MembersResemble R V [] []
  | cons {member : Provider σ α} {member' : Provider σ' α} {rest : List (Provider σ α)}
      {rest' : List (Provider σ' α)} (h : Resembles R V member member')
      (hrest : MembersResemble R V rest rest') :
      MembersResemble R V (member :: rest) (member' :: rest')

end

theorem Resembles.members {provider : Provider σ α} {provider' : Provider σ' α}
    (h : Resembles R V provider provider') :
    MembersResemble R V provider.members provider'.members := by
  cases h with
  | source h => exact .cons (.source h) .nil
  | chain hrole h => exact h

theorem Resembles.withMembers {provider : Provider σ α} {provider' : Provider σ' α}
    {next : List (Provider σ α)} {next' : List (Provider σ' α)}
    (h : Resembles R V provider provider') (hnext : MembersResemble R V next next') :
    Resembles R V (provider.withMembers next) (provider'.withMembers next') := by
  cases h with
  | chain hrole _ => exact .chain hrole hnext
  | source h =>
    -- a source stands for itself, alone
    rcases hnext with - | ⟨hmember, - | ⟨-, -⟩⟩
    · exact .source h
    · exact hmember
    · exact .source h

end Provider

/-- Sources with a platform, before or after they were asked: the sources are related, and it is
one and the same platform. -/
def OnOnePlatform (R : σ → σ' → Prop) (x : σ × Platform) (y : σ' × Platform) : Prop :=
  R x.1 y.1 ∧ x.2 = y.2

/-- Related sources are described alike, and asking them makes no difference but in the values. -/
structure Resembling [Source σ α] [Source σ' α] (R : σ → σ' → Prop) (V : α → α → Prop) : Prop where
  describe : ∀ s s', R s s' → Source.describe s = Source.describe s'
  ask : (Source.ask : Operation (σ × Platform) (Option α)).Lockstep (OnOnePlatform R)
    (Option.Rel V) (Source.ask : Operation (σ' × Platform) (Option α))

namespace Provider

variable [Source σ α] [Source σ' α]

mutual

/-- **Trees that resemble each other are described alike.** -/
theorem Resembles.describe_eq (hR : Resembling R V) {provider : Provider σ α}
    {provider' : Provider σ' α} (h : Resembles R V provider provider') :
    provider.describe = provider'.describe := by
  cases h with
  | source h => exact hR.describe _ _ h
  | chain hrole h => rw [describe, describe, h.describe_eq hR, hrole.describe_eq]

theorem MembersResemble.describe_eq (hR : Resembling R V) {members : List (Provider σ α)}
    {members' : List (Provider σ' α)} (h : MembersResemble R V members members') :
    describeMembers members = describeMembers members' := by
  cases h with
  | nil => rfl
  | cons h hrest =>
    rw [describeMembers, describeMembers, h.describe_eq hR, hrest.describe_eq hR]

end

/-! ### Asking -/

/-- Two outcomes that differ in the values only: what was asked resembles, and the platform after it
is the same. -/
structure Answered {ε β γ γ' : Type} (Q : β → β → Prop) (T : γ → γ' → Prop)
    (x : Except ε β × γ × Platform) (y : Except ε β × γ' × Platform) : Prop where
  result : EndAlike Q x.1 y.1
  asked : T x.2.1 y.2.1
  platform : x.2.2 = y.2.2

variable [Provided α]

mutual

/-- **Asking trees that resemble each other makes no difference but in the values.** -/
theorem Resembles.ask (hR : Resembling R V)
    (hV : ∀ value value', V value value' → Provided.expiry value = Provided.expiry value')
    {provider : Provider σ α} {provider' : Provider σ' α} (h : Resembles R V provider provider')
    (p : Platform) :
    Answered (Option.Rel V) (Resembles R V) (provider.ask p) (provider'.ask p) := by
  cases h with
  | @source s s' h =>
    obtain ⟨hend, hafter, hplatform⟩ := hR.ask (s, p) (s', p) ⟨h, rfl⟩
    exact ⟨hend, .source hafter, hplatform⟩
  | @chain role role' members members' hrole h =>
    have hkept := hrole.kept? p.now
    rw [Provider.ask, Provider.ask]
    rcases hx : role.kept? p.now with - | value <;> rcases hy : role'.kept? p.now with - | value'
    all_goals
      rw [hx, hy] at hkept
      cases hkept
    case some.some.some hvalue => exact ⟨.ok (.some hvalue), .chain hrole h, rfl⟩
    case none.none.none =>
      have hfound := h.ask hR hV p
      rcases hx : askMembers members p with ⟨found, next, q⟩
      rcases hy : askMembers members' p with ⟨found', next', q'⟩
      rw [hx, hy] at hfound
      obtain ⟨hend, hmembers, hplatform⟩ := hfound
      cases hplatform
      cases hend with
      | ok hvalue =>
        exact ⟨.ok (.some hvalue), .chain (hrole.keep hvalue (hV _ _ hvalue) _) hmembers, rfl⟩
      | error attempts =>
        refine ⟨?_, .chain hrole hmembers, rfl⟩
        cases hrole with
        | plain => exact .ok .none
        | named name => exact .ok .none
        | keeping name margin _ => exact .error _

theorem MembersResemble.ask (hR : Resembling R V)
    (hV : ∀ value value', V value value' → Provided.expiry value = Provided.expiry value')
    {members : List (Provider σ α)} {members' : List (Provider σ' α)}
    (h : MembersResemble R V members members') (p : Platform) :
    Answered V (MembersResemble R V) (askMembers members p) (askMembers members' p) := by
  cases h with
  | nil => exact ⟨.error [], .nil, rfl⟩
  | @cons member member' rest rest' h hrest =>
    have hanswer := h.ask hR hV p
    rw [askMembers, askMembers]
    rcases hx : member.ask p with ⟨result, next, q⟩
    rcases hy : member'.ask p with ⟨result', next', q'⟩
    rw [hx, hy] at hanswer
    obtain ⟨hend, hnext, hplatform⟩ := hanswer
    cases hplatform
    dsimp only at hend hnext
    cases hend with
    | error e =>
      -- the warning about the member and the entry in the report name it by its description
      have hrest := hrest.ask hR hV (q.warn (warning (Provided.what α) next'.describe e))
      dsimp only
      rw [hnext.describe_eq hR]
      exact ⟨hrest.result.mapError _, .cons hnext hrest.asked, hrest.platform⟩
    | ok hvalue =>
      cases hvalue with
      | none =>
        have hrest := hrest.ask hR hV q
        dsimp only
        rw [hnext.describe_eq hR]
        exact ⟨hrest.result.mapError _, .cons hnext hrest.asked, hrest.platform⟩
      | some hvalue => exact ⟨.ok hvalue, .cons hnext hrest, rfl⟩

end

/-! ### Insisting on a value -/

/-- **Whoever insists on a value gets related values, or one and the same report** of what the
members did. -/
theorem lockstep_resolve (hR : Resembling R V)
    (hV : ∀ value value', V value value' → Provided.expiry value = Provided.expiry value') :
    (resolve : Operation (Provider σ α × Platform) α).Lockstep (OnOnePlatform (Resembles R V)) V
      (resolve : Operation (Provider σ' α × Platform) α) := by
  rintro ⟨provider, p⟩ ⟨provider', p'⟩ ⟨h, hp⟩
  obtain rfl : p = p' := hp
  have hfound := h.members.ask hR hV p
  exact ⟨hfound.result.mapError _, h.withMembers hfound.asked, hfound.platform⟩

end Provider

end AwsSigning
