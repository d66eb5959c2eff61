/-
AwsSigning/Proofs/Provider/Keeping.lean

What a chain that keeps its value hands out later.

However often such a chain is asked, and whatever happens in between, its cell
holds nothing or a value together with the expiry of that value (`Keeps`).  So
a value that it hands out without asking its members has not come closer to
its expiry than the margin of the cell (`Keeps.before_of_kept`).

Such a value was found in some call, the present one or one before it, at a
time when nothing was kept (`foundIn_of_given`).

For credentials the cell of the chain that is used if nothing else is said has
a margin of ten seconds, while a credential is good for signing only up to two
minutes before its expiry.  Between the two there is a span in which the chain
hands out a credential that is refused, although its members might give a new
one:

      good for signing        refused, but kept       loaded again
    --------------------|------------------------|-------------------|-->
                    e - 2 min                 e - 10 s               e

and this is the only way in which a complete credential from the cell is
refused (`isValid_eq_false_iff_of_kept`).
-/
import Mathlib.Data.List.Induction
import AwsSigning.Proofs.Provider.Asking
import AwsSigning.Proofs.Signing.Middleware
import AwsSigning.Provider.Credentials

namespace AwsSigning

/-! ### Values that are kept -/

namespace Provider

variable {σ α : Type} {provider : Provider σ α} {margin : Duration} {value : α} {now : Instant}

/-- The value that a provider hands out without asking anybody. -/
def kept? : Provider σ α → Instant → Option α
  | source _, _ => none
  | chain role _, now => role.kept? now

section Keeping

variable [Provided α]

variable (margin) in
/-- The provider keeps what it found, with the expiry of that value, or some time after it was found
if it never expires. -/
inductive Keeps : Provider σ α → Prop
  | cell {name : String} {cell : Cached α} {members : List (Provider σ α)}
      (hmargin : cell.margin = margin)
      (hexpiry : ∀ entry ∈ cell.entry, ∃ found : Instant, entry.expiry
        = some ((Provided.expiry entry.value).getD (found.add Role.refreshInterval))) :
      Keeps (chain (.keeping name cell) members)

/-- **A value is handed out from the cell only before its expiry, less the margin.** -/
theorem Keeps.before_of_kept {expiry : Instant} (h : Keeps margin provider)
    (hkept : provider.kept? now = some value) (hexpiry : Provided.expiry value = some expiry) :
    now.before (expiry.sub margin) = true := by
  cases h with
  | @cell name cell members hmargin hentry =>
    have hget : cell.get? now = some value := hkept
    unfold Cached.get? at hget
    split at hget
    · next entry hcell =>
      obtain ⟨found, hfound⟩ := hentry entry hcell
      split at hget
      · next hfresh =>
        cases hget
        rw [Cached.fresh, hfound, hexpiry, hmargin] at hfresh
        exact hfresh
      · cases hget
    · cases hget

/-! ### Asking -/

variable [Source σ α]

/-- A value that is kept is handed out, and nothing changes. -/
theorem ask_of_kept {p : Platform} (h : provider.kept? p.now = some value) :
    provider.ask p = (.ok (some value), provider, p) := by
  rcases provider with state | ⟨role, members⟩
  · cases h
  · have hrole : role.kept? p.now = some value := h
    rw [ask, hrole]

/-- What is found is kept until its own expiry. -/
theorem Keeps.ask (h : Keeps margin provider) (p : Platform) : Keeps margin (provider.ask p).2.1 := by
  cases h with
  | @cell name cell members hmargin hexpiry =>
    rw [Provider.ask]
    split
    · exact .cell hmargin hexpiry
    · -- the members are asked, and what they give is installed
      split
      · apply Keeps.cell
        · exact hmargin
        · rintro entry ⟨⟩
          exact ⟨_, rfl⟩
      · exact .cell hmargin hexpiry

/-- **However often it is asked, whatever is kept is kept until its own expiry.** -/
theorem Keeps.afterAsks (h : Keeps margin provider) (platforms : List Platform) :
    Keeps margin (provider.afterAsks platforms) := by
  induction platforms generalizing provider with
  | nil => exact h
  | cons p platforms ih => exact ih (h.ask p)

end Keeping

/-! ### Where kept values come from -/

section Found

/-- The value in the cell of a provider, however old it is. -/
def held? : Provider σ α → Option α
  | chain (.keeping _ cell) _ => cell.entry.map (·.value)
  | _ => none

theorem held?_of_kept (h : provider.kept? now = some value) : provider.held? = some value := by
  rcases provider with state | ⟨- | name | ⟨name, cell⟩, members⟩
  · cases h
  · cases h
  · cases h
  · have hget : cell.get? now = some value := h
    unfold Cached.get? at hget
    split at hget
    · next entry hentry =>
      split at hget
      · cases hget
        rw [held?, hentry]
        rfl
      · cases hget
    · cases hget

variable [Source σ α] [Provided α]

theorem afterAsks_concat (provider : Provider σ α) (platforms : List Platform) (p : Platform) :
    provider.afterAsks (platforms ++ [p]) = ((provider.afterAsks platforms).ask p).2.1 :=
  List.foldl_concat ..

/-- What is in the cell after a call was there before, or the call has found it. -/
theorem held?_ask {p : Platform} (h : (provider.ask p).2.1.held? = some value) :
    provider.held? = some value ∨
      provider.kept? p.now = none ∧ given (provider.ask p).1 = some value := by
  rcases provider with state | ⟨role, members⟩
  · cases h
  rcases hkept : role.kept? p.now with - | kept
  · rw [ask, hkept] at h
    rcases hwalk : askMembers members p with ⟨attempts | found, next, q⟩
    · -- nothing was found, and the cell is what it was
      rw [hwalk] at h
      rcases role with - | name | ⟨name, cell⟩
      · cases h
      · cases h
      · exact .inl h
    · rw [hwalk] at h
      rcases role with - | name | ⟨name, cell⟩
      · cases h
      · cases h
      · refine .inr ⟨hkept, ?_⟩
        rw [ask, hkept, hwalk]
        exact h
  · rw [ask, hkept] at h
    exact .inl h

/-- Some call found the value, when nothing was kept. -/
def FoundIn (provider : Provider σ α) (platforms : List Platform) (value : α) : Prop :=
  ∃ earlier q later, platforms = earlier ++ q :: later ∧
    (provider.afterAsks earlier).kept? q.now = none ∧
    given ((provider.afterAsks earlier).ask q).1 = some value

theorem FoundIn.concat {platforms : List Platform} (h : FoundIn provider platforms value)
    (p : Platform) : FoundIn provider (platforms ++ [p]) value := by
  obtain ⟨earlier, q, later, rfl, hkept, hfound⟩ := h
  exact ⟨earlier, q, later ++ [p], by simp, hkept, hfound⟩

/-- What is in the cell of a provider was found in a call, if nothing was in it at first. -/
theorem foundIn_of_held {platforms : List Platform} (hnew : provider.held? = none)
    (h : (provider.afterAsks platforms).held? = some value) : FoundIn provider platforms value := by
  induction platforms using List.reverseRecOn with
  | nil =>
    rw [afterAsks, List.foldl_nil, hnew] at h
    cases h
  | append_singleton platforms p ih =>
    rw [afterAsks_concat] at h
    obtain hbefore | ⟨hkept, hfound⟩ := held?_ask h
    · exact (ih hbefore).concat p
    · exact ⟨platforms, p, [], rfl, hkept, hfound⟩

/-- **Whatever is handed out was found in some call**, the present one or one before, and nothing
was kept at that time. -/
theorem foundIn_of_given {platforms : List Platform} {p : Platform} (hnew : provider.held? = none)
    (h : given ((provider.afterAsks platforms).ask p).1 = some value) :
    FoundIn provider (platforms ++ [p]) value := by
  rcases hkept : (provider.afterAsks platforms).kept? p.now with - | kept
  · exact ⟨platforms, p, [], rfl, hkept, h⟩
  · rw [ask_of_kept hkept] at h
    cases h
    exact (foundIn_of_held hnew (held?_of_kept hkept)).concat p

end Found

end Provider

/-! ### Credentials that are kept -/

namespace Credential

variable {c : Credential} {now : Instant}

/-- A complete credential is refused only because of its expiry. -/
theorem isValid_eq_false_iff (hid : c.accessKeyId ≠ "") (hsecret : c.secretAccessKey ≠ "") :
    c.isValid now = false ↔ ∃ expiry, c.expiry = some expiry ∧
      (now.add margin).before expiry = false := by
  have hcomplete : (c.accessKeyId ≠ "" && c.secretAccessKey ≠ "") = true := by simp [hid, hsecret]
  rw [isValid, hcomplete, Bool.true_and]
  rcases c.expiry with - | expiry <;> simp

end Credential

theorem CredentialProvider.keeps_keeping {κ : Type} (members : List (CredentialProvider κ)) :
    Provider.Keeps (.ofSeconds 10) (keeping members) :=
  .cell rfl (by rintro entry ⟨⟩)

namespace Signing.Middleware

variable {κ σ : Type} [Source κ Credential] {base : Draft} {desk : Desk (CredentialProvider κ) σ}
  {c : Credential}

/-- A credential that is kept is handed on if it is good for signing now. -/
theorem outcome_credential_of_kept (h : desk.provider.kept? desk.platform.now = some c) :
    credential.outcome desk = (usable desk.platform.now (some c), desk) := by
  have hasked : Source.ask.outcome (desk.provider, desk.platform)
      = (.ok (some c), desk.provider, desk.platform) := Provider.ask_of_kept h
  rw [outcome_credential, hasked]
  rfl

/-- **A complete credential from the cell is refused exactly if it expires within two minutes, and
not within ten seconds**, and then nothing is signed; whatever the chain was asked before. -/
theorem isValid_eq_false_iff_of_kept [ByteStream σ] {members : List (CredentialProvider κ)}
    {platforms : List Platform}
    (hprovider : desk.provider = (CredentialProvider.keeping members).afterAsks platforms)
    (hkept : desk.provider.kept? desk.platform.now = some c)
    (hid : c.accessKeyId ≠ "") (hsecret : c.secretAccessKey ≠ "") :
    (c.isValid desk.platform.now = false ↔ ∃ expiry, c.expiry = some expiry ∧
      desk.platform.now.before (expiry.sub (.ofSeconds 10)) = true ∧
      (desk.platform.now.add Credential.margin).before expiry = false) ∧
    (c.isValid desk.platform.now = true → credential.outcome desk = (.ok c, desk)) ∧
    (c.isValid desk.platform.now = false →
      (sign base).outcome desk = (.error (.signing .credentialStale), desk)) := by
  have hkeeps : desk.provider.Keeps (.ofSeconds 10) := by
    rw [hprovider]
    exact (CredentialProvider.keeps_keeping members).afterAsks platforms
  have hcredential := outcome_credential_of_kept hkept
  refine ⟨?_, ?_, ?_⟩
  · rw [Credential.isValid_eq_false_iff hid hsecret]
    constructor
    · rintro ⟨expiry, hexpiry, hlate⟩
      exact ⟨expiry, hexpiry, hkeeps.before_of_kept hkept hexpiry, hlate⟩
    · rintro ⟨expiry, hexpiry, -, hlate⟩
      exact ⟨expiry, hexpiry, hlate⟩
  · intro hvalid
    rw [hcredential, usable, if_pos hvalid]
  · intro hstale
    rw [sign, Operation.outcome_bind, Operation.outcome_get]
    dsimp only
    rw [Operation.outcome_bind, hcredential, usable, hstale]
    rfl

/-! ### Keys that are replaced -/

/-- A source of the caller's own: key pairs that are handed out one after the other. -/
structure Rota where
  left : List Credential

instance : Source Rota Credential where
  ask := Operation.of fun (rota, p) => (.ok rota.left.head?, ⟨rota.left.tail⟩, p)
  describe _ := "Rota"

/-- The first key pair is good for five minutes after midnight. -/
def firstCredential : Credential where
  accessKeyId := "AKIDFIRST"
  secretAccessKey := "secret"
  expiry := some (.ofSecond 1704067500)

/-- The second one is good till the morning. -/
def secondCredential : Credential where
  accessKeyId := "AKIDSECOND"
  secretAccessKey := "secret"
  expiry := some (.ofSecond 1704088800)

/-- The night after some seconds. -/
def night (seconds : Int) : Platform where
  now := .ofSecond (1704067200 + seconds)

/-- The first key pair was asked for at midnight, and now a request is to be signed. -/
def nightDesk (seconds : Int) : Desk (CredentialProvider Rota) ReplayableStream where
  provider := (CredentialProvider.keeping
    [.source (.custom ⟨[firstCredential, secondCredential]⟩)]).afterAsks [night 0]
  platform := night seconds
  request := .root
  payload := .empty

/-- A hundred seconds before it expires, the first key pair is kept and nothing can be signed. -/
theorem isValid_eq_false_iff_of_kept_night :
    (nightDesk 200).provider.kept? (night 200).now = some firstCredential ∧
    firstCredential.isValid (night 200).now = false ∧
    (sign {}).outcome (nightDesk 200) = (.error (.signing .credentialStale), nightDesk 200) := by
  have hkept : (nightDesk 200).provider.kept? (night 200).now = some firstCredential := by
    decide +kernel
  have hstale : firstCredential.isValid (night 200).now = false := by decide +kernel
  exact ⟨hkept, hstale, (isValid_eq_false_iff_of_kept rfl hkept (by decide) (by decide)).2.2 hstale⟩

/-- At that time the source would hand out a key pair that is good for signing. -/
theorem exists_refused_of_kept :
    ∃ first second, (nightDesk 200).provider.kept? (night 200).now = some first ∧
      first.accessKeyId ≠ "" ∧ first.secretAccessKey ≠ "" ∧
      first.isValid (night 200).now = false ∧
      (Provider.askMembers (nightDesk 200).provider.members (night 200)).1.toOption = some second ∧
      second.isValid (night 200).now = true := by
  refine ⟨firstCredential, secondCredential, ?_⟩
  decide +kernel

end Signing.Middleware

end AwsSigning
