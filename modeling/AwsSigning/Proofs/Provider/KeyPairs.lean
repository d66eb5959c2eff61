/-
AwsSigning/Proofs/Provider/KeyPairs.lean

Key pairs that are handed out whatever they say.

A source of credentials looks for two keys.  If both are there it hands them
out, and it does not matter to it whether there is anything in them.  So the
default chain stops at the first source that has two keys (`firstKeys?`), even
if these are empty and nothing can be signed with them, while a source behind
it has keys that are good for signing:

      process          profile          metadata service
     "" and ""     AKID and secret       (never asked)

By `Provider.foundIn_of_given` this tells about every credential that the chain
ever hands out, however often and on whatever platforms it was asked before
(`keys_of_default`): it has the keys that came first in the call that found it,
and it is kept like any other.
-/
import AwsSigning.Proofs.Metadata.Disabled
import AwsSigning.Proofs.Provider.Keeping
import AwsSigning.Proofs.Provider.Nesting
import AwsSigning.Proofs.Provider.Sources

namespace AwsSigning

open Operation

variable {κ : Type} {p q : Platform} {profile? : Option String}

/-! ### Key pairs -/

/-- The two keys of a credential. -/
structure KeyPair where
  accessKeyId : String
  secretAccessKey : String
deriving DecidableEq

/-- The keys of a credential. -/
def Credential.keys (c : Credential) : KeyPair := ⟨c.accessKeyId, c.secretAccessKey⟩

namespace KeyPair

/-- There is something in both keys. -/
def IsComplete (keys : KeyPair) : Prop := keys.accessKeyId ≠ "" ∧ keys.secretAccessKey ≠ ""

instance (keys : KeyPair) : Decidable keys.IsComplete := inferInstanceAs (Decidable (_ ∧ _))

/-- Two keys, if both are there. -/
def of? (accessKeyId? secretAccessKey? : Option String) : Option KeyPair := do
  pure ⟨← accessKeyId?, ← secretAccessKey?⟩

/-- The keys among properties and variables. -/
def inProcess? (p : Platform) : Option KeyPair :=
  of? (given (Setting.accessKeyId.resolveFromProcess p))
    (given (Setting.secretAccessKey.resolveFromProcess p))

/-- The keys in a profile. -/
def inSection? (profile : Section) : Option KeyPair :=
  of? (profile.get? "aws_access_key_id") (profile.get? "aws_secret_access_key")

/-- The keys in the profile of a name, or in the active one. -/
def inProfile? (profile? : Option String) (p : Platform) : Option KeyPair :=
  ((SharedConfig.load profile?).outcome p).1.toOption.bind fun config =>
    inSection? config.activeProfile

/-- The keys in what the metadata service says about a role: in a document that reports success and
has an expiry. -/
def inDocument? (content : String) : Option KeyPair :=
  (Metadata.Document.parse? content).bind fun document =>
    if document.code = "Success" ∧ (Rfc3339.parse document.expiration).toOption.isSome then
      some ⟨document.accessKeyId, document.secretAccessKey⟩
    else none

/-- The keys that the metadata service has for the first role, if it may be asked. -/
def inMetadata? (client : Metadata.Client) (p : Platform) : Option KeyPair :=
  match Metadata.isDisabled p with
  | .ok false =>
    let (roles, s) := (Metadata.Client.fetch Metadata.credentialsPath).outcome (client, p)
    (roles.toOption.bind Metadata.firstRole?).bind fun role =>
      let content := ((Metadata.Client.fetch (Metadata.credentialsPath ++ role)).outcome s).1
      content.toOption.bind inDocument?
  | _ => none

end KeyPair

/-- The keys that a source has. -/
def CredentialSource.keys? [Source κ Credential] : CredentialSource κ → Platform → Option KeyPair
  | process, p => KeyPair.inProcess? p
  | profile name?, p => KeyPair.inProfile? name? p
  | metadata client, p => KeyPair.inMetadata? client p
  | fixed credential, _ => some credential.keys
  | custom state, p => (given (Source.ask.outcome (state, p)).1).map Credential.keys

/-! ### Sources -/

namespace Credential

/-- The keys in the process are handed out if there are two. -/
theorem keys_ofProcess (p : Platform) : (given (ofProcess p)).map keys = KeyPair.inProcess? p := by
  obtain ⟨id?, hid⟩ := Setting.exists_resolve_of_readText (s := Setting.accessKeyId) rfl p none
  obtain ⟨secret?, hsecret⟩ :=
    Setting.exists_resolve_of_readText (s := Setting.secretAccessKey) rfl p none
  obtain ⟨token?, htoken⟩ :=
    Setting.exists_resolve_of_readText (s := Setting.sessionToken) rfl p none
  simp only [ofProcess, KeyPair.inProcess?, Setting.resolveFromProcess, hid, hsecret, htoken]
  rcases id? with - | id <;> rcases secret? with - | secret <;> rfl

/-- The keys in a profile are handed out if there are two. -/
theorem keys_ofProfile (profile : Section) :
    (given (ofProfile profile)).map keys = KeyPair.inSection? profile := by
  rw [ofProfile, KeyPair.inSection?]
  rcases profile.get? "aws_access_key_id" with - | id <;>
    rcases profile.get? "aws_secret_access_key" with - | secret <;> rfl

theorem keys_ofSharedConfig (profile? : Option String) (p : Platform) :
    (given ((ofSharedConfig profile?).outcome p).1).map keys = KeyPair.inProfile? profile? p := by
  rw [ofSharedConfig, outcome_bind, KeyPair.inProfile?]
  rcases (SharedConfig.load profile?).outcome p with ⟨e | config, q⟩
  · rfl
  · exact keys_ofProfile config.activeProfile

end Credential

namespace Metadata

/-- The keys in a document are handed out if it reports success and has an expiry. -/
theorem keys_credentialOf (role content : String) :
    (credentialOf role content).toOption.map Credential.keys = KeyPair.inDocument? content := by
  rw [credentialOf, KeyPair.inDocument?]
  rcases Document.parse? content with - | document
  · rfl
  dsimp only [Option.bind_some]
  by_cases hcode : document.code = "Success"
  · rw [Document.failure?, if_pos hcode, Document.credential]
    rcases Rfc3339.parse document.expiration with e | expiry
    · rw [if_neg (by rintro ⟨-, ⟨⟩⟩)]
      rfl
    · rw [if_pos ⟨hcode, rfl⟩]
      rfl
  · rw [Document.failure?, if_neg hcode, if_neg (by rintro ⟨h, -⟩; exact hcode h)]
    rcases document.fault <;> rfl

/-- The keys of the first role are handed out if the metadata service has them. -/
theorem keys_fetchCredential (client : Client) (p : Platform) :
    (given (fetchCredential.outcome (client, p)).1).map Credential.keys
      = KeyPair.inMetadata? client p := by
  simp only [fetchCredential, outcome_bind, outcome_get, outcome_ofExcept, KeyPair.inMetadata?]
  rcases isDisabled p with e | - | -
  · rfl
  · simp only [Bool.false_eq_true, if_false, outcome_bind]
    rcases (Client.fetch credentialsPath).outcome (client, p) with ⟨e | roles, s⟩
    · rfl
    show Option.map Credential.keys (given (Operation.outcome _ s).1)
      = (firstRole? roles).bind fun role => _
    rcases firstRole? roles with - | role
    · rfl
    dsimp only [Option.bind_some]
    rw [outcome_bind, outcome_mapFailure]
    rcases (Client.fetch (credentialsPath ++ role)).outcome s with ⟨e | content, s'⟩
    · rfl
    · dsimp only [Except.mapError]
      rw [outcome_map, outcome_ofExcept]
      show _ = KeyPair.inDocument? content
      rw [← keys_credentialOf role content]
      rcases credentialOf role content with e | credential <;> rfl
  · rfl

end Metadata

/-! ### Rows of sources -/

namespace CredentialSource

variable [Source κ Credential] {s : CredentialSource κ}

/-- **A source hands out the keys that it has**, whatever they say. -/
theorem keys_ask (s : CredentialSource κ) (p : Platform) :
    (given (Source.ask.outcome (s, p)).1).map Credential.keys = s.keys? p := by
  cases s with
  | process => exact Credential.keys_ofProcess p
  | profile name? => exact Credential.keys_ofSharedConfig name? p
  | metadata client => exact Metadata.keys_fetchCredential client p
  | fixed credential => rfl
  | custom state => rfl

/-- Warnings do not matter for the keys that a source has. -/
theorem keys?_eq (hs : SameKind p s s) (h : p.OnlyWarned q) : s.keys? q = s.keys? p := by
  have hvalue := (askedAlike_sameKind p s s p q hs h.alike).value
  rw [← keys_ask, ← keys_ask, hvalue]

/-- The source only warns, and is the same afterwards. -/
def Unmoved (s : CredentialSource κ) : Prop :=
  ∀ p : Platform, (Source.ask.outcome (s, p)).2.1 = s ∧ p.OnlyWarned (Source.ask.outcome (s, p)).2.2

theorem unmoved_process : Unmoved (.process : CredentialSource κ) := fun p => ⟨rfl, .refl p⟩

theorem unmoved_profile (name? : Option String) :
    Unmoved (.profile name? : CredentialSource κ) := by
  refine fun p => ⟨rfl, ?_⟩
  exact .bind (SharedConfig.onlyWarned_load name? p) fun config q _ => .refl q

end CredentialSource

namespace CredentialProvider

open Provider CredentialSource

variable [Source κ Credential]

/-- Behind a source that only warns the walk goes on if the source has no keys. -/
theorem askMembers_of_unmoved {s : CredentialSource κ} (hs : s.Unmoved)
    (rest : List (CredentialProvider κ)) (p : Platform) :
    ∃ q, p.OnlyWarned q ∧
      (askMembers (.source s :: rest) p).1.toOption.map Credential.keys
        = (s.keys? p).or ((askMembers rest q).1.toOption.map Credential.keys) ∧
      ∃ rest', (askMembers (.source s :: rest) p).2.1 = .source s :: rest' ∧
        (rest' = rest ∨ rest' = (askMembers rest q).2.1) := by
  obtain ⟨hsource, hwarned⟩ := hs p
  have hask : ((.source s : CredentialProvider κ).ask p).2.1 = .source s :=
    congrArg Provider.source hsource
  rw [← keys_ask]
  rcases hgiven : given ((.source s : CredentialProvider κ).ask p).1 with - | credential
  · -- whoever comes next is asked after one more warning at most
    obtain ⟨attempt, q, hq, hwalk⟩ := askMembers_of_not_given hgiven rest
    have hnone : given (Source.ask.outcome (s, p)).1 = none := hgiven
    refine ⟨q, hwarned.warned hq, ?_, _, ?_, .inr rfl⟩
    · rw [hwalk, hnone, toOption_recordAttempt]
      rfl
    · rw [hwalk, hask]
  · have hsome : given (Source.ask.outcome (s, p)).1 = some credential := hgiven
    refine ⟨p, .refl p, ?_, _, ?_, .inl rfl⟩
    · rw [askMembers_of_given hgiven, hsome]
      rfl
    · rw [askMembers_of_given hgiven, hask]

/-- The sources of the default chain, with a client of the metadata service that may have been at
work. -/
def row (profile? : Option String) (client : Metadata.Client) : List (CredentialProvider κ) :=
  [.source .process, .source (.profile profile?), .source (.metadata client)]

/-- The first key pair among the sources of a provider, all of them looked at on one platform. -/
def firstKeys? (provider : CredentialProvider κ) (p : Platform) : Option KeyPair :=
  provider.leaves.findSome? (·.keys? p)

/-- Where the first keys of the default chain are looked for. -/
theorem firstKeys?_row (role : Role Credential) (profile? : Option String)
    (client : Metadata.Client) (p : Platform) :
    firstKeys? (.chain role (row profile? client) : CredentialProvider κ) p
      = (KeyPair.inProcess? p).or
          ((KeyPair.inProfile? profile? p).or (KeyPair.inMetadata? client p)) := by
  show List.findSome? _ [process, profile profile?, metadata client] = _
  simp only [List.findSome?_cons, List.findSome?_nil, keys?]
  rcases KeyPair.inProcess? p with - | keys
  · rcases KeyPair.inProfile? profile? p with - | keys
    · rcases KeyPair.inMetadata? client p with - | keys <;> rfl
    · rfl
  · rfl

/-- **One walk along the default chain** stops at the first key pair, and changes nothing about the
chain but the client. -/
theorem askMembers_row (role : Role Credential) (profile? : Option String)
    (client : Metadata.Client) (p : Platform) :
    (askMembers (row profile? client : List (CredentialProvider κ)) p).1.toOption.map
        Credential.keys = firstKeys? (.chain role (row profile? client) : CredentialProvider κ) p ∧
      ∃ client', (askMembers (row profile? client : List (CredentialProvider κ)) p).2.1
        = row profile? client' := by
  obtain ⟨q, hq, hprocess, rest, hrest, hstays⟩ := askMembers_of_unmoved (κ := κ) unmoved_process
    [.source (.profile profile?), .source (.metadata client)] p
  obtain ⟨r, hr, hprofile, last, hlast, hends⟩ := askMembers_of_unmoved (κ := κ)
    (unmoved_profile profile?) [.source (.metadata client)] q
  obtain ⟨hclient, hmetadata⟩ :=
    askMembers_alone (σ := CredentialSource κ) (α := Credential) (.metadata client) r
  constructor
  · -- the profile and the service are looked at after some warnings, which do not matter
    have hinProfile : KeyPair.inProfile? profile? q = KeyPair.inProfile? profile? p :=
      keys?_eq (κ := κ) (.profile fun _ _ => rfl) hq
    have hinMetadata : KeyPair.inMetadata? client r = KeyPair.inMetadata? client p :=
      keys?_eq (κ := κ) (.metadata client) (hq.trans hr)
    rw [firstKeys?_row, row, hprocess, hprofile, hmetadata, keys_ask]
    simp only [keys?, hinProfile, hinMetadata]
  · rw [row, hrest]
    obtain rfl | rfl := hstays
    · exact ⟨client, rfl⟩
    · rw [hlast]
      obtain rfl | rfl := hends
      · exact ⟨client, rfl⟩
      · rw [hclient]
        exact ⟨_, rfl⟩

/-! ### The default chain, asked again and again -/

/-- The default chain, with whatever is in its cell and with a client that may have been at work. -/
def Shaped (profile? : Option String) (provider : CredentialProvider κ) : Prop :=
  ∃ name cell client, provider = .chain (.keeping name cell) (row profile? client)

theorem Shaped.ask {provider : CredentialProvider κ} (h : Shaped profile? provider) (p : Platform) :
    Shaped profile? (provider.ask p).2.1 := by
  obtain ⟨name, cell, client, rfl⟩ := h
  obtain ⟨-, client', hmembers⟩ := askMembers_row (κ := κ) (.keeping name cell) profile? client p
  rw [Provider.ask]
  split
  · exact ⟨name, cell, client, rfl⟩
  · rcases hwalk : askMembers (row profile? client : List (CredentialProvider κ)) p
      with ⟨attempts | credential, members, q⟩
    all_goals
      rw [hwalk] at hmembers
      dsimp only at hmembers
      rw [hmembers]
      exact ⟨name, _, client', rfl⟩

theorem Shaped.afterAsks {provider : CredentialProvider κ} (h : Shaped profile? provider)
    (platforms : List Platform) : Shaped profile? (provider.afterAsks platforms) := by
  induction platforms generalizing provider with
  | nil => exact h
  | cons p platforms ih => exact ih (h.ask p)

/-- A call in which nothing is kept gives the keys that come first. -/
theorem Shaped.keys_ask {provider : CredentialProvider κ} (h : Shaped profile? provider)
    (hkept : provider.kept? p.now = none) :
    (given (provider.ask p).1).map Credential.keys = provider.firstKeys? p := by
  obtain ⟨name, cell, client, rfl⟩ := h
  have hrole : Role.kept? (.keeping name cell) p.now = none := hkept
  rw [← (askMembers_row (.keeping name cell) profile? client p).1, Provider.ask, hrole]
  rcases askMembers (row profile? client : List (CredentialProvider κ)) p
    with ⟨attempts | credential, members, q⟩ <;> rfl

/-- **The default chain hands out the key pair that comes first, whatever it says.**  If nothing is
kept, it is the first pair among the process, the profile and the metadata service, be it complete
or not; and there is no other way to a credential: each one that is ever handed out was found in
such a call, and has the keys that came first then. -/
theorem keys_of_default (profile? : Option String) (platforms : List Platform) (p : Platform) :
    let used (platforms : List Platform) : CredentialProvider κ :=
      (default profile?).afterAsks platforms
    ((used platforms).kept? p.now = none →
      (given ((used platforms).ask p).1).map Credential.keys = (used platforms).firstKeys? p) ∧
    ∀ credential, given ((used platforms).ask p).1 = some credential →
      ∃ earlier q later, platforms ++ [p] = earlier ++ q :: later ∧
        (used earlier).kept? q.now = none ∧
        (used earlier).firstKeys? q = some credential.keys := by
  intro used
  have hshaped : ∀ platforms, Shaped profile? (used platforms) :=
    Shaped.afterAsks ⟨_, _, {}, rfl⟩
  refine ⟨(hshaped platforms).keys_ask, fun credential hgiven => ?_⟩
  -- the call that found the credential is one in which nothing was kept
  obtain ⟨earlier, q, later, hsplit, hkept, hfound⟩ := foundIn_of_given rfl hgiven
  refine ⟨earlier, q, later, hsplit, hkept, ?_⟩
  rw [← (hshaped earlier).keys_ask hkept, hfound]
  rfl

/-! ### Variables without anything in them -/

/-- A machine with keys in its credentials file, and with some variables. -/
def keyed (now : Instant) (environment : Table String) : Platform :=
  { Platform.ofUser environment [("/home/dev/.aws/credentials", .contents (Utf8.ofString
      "[default]\naws_access_key_id = AKID\naws_secret_access_key = secret\n"))] with now }

/-- The variables for the keys are set, but there is nothing in them. -/
def blanked : Platform :=
  keyed ⟨0, 0⟩ [("AWS_ACCESS_KEY_ID", ""), ("AWS_SECRET_ACCESS_KEY", "")]

/-- Five minutes later the variables are gone. -/
def cleared : Platform := keyed ⟨300, 0⟩ []

/-- The default chain of a program without sources of its own. -/
def plainDefault : CredentialProvider (Nowhere Credential) := default none

/-- The empty keys are handed out, and they still are when the variables are gone. -/
theorem keys_of_default_blanked :
    (given (plainDefault.ask blanked).1).map Credential.keys = some ⟨"", ""⟩ ∧
    ∃ credential, given ((plainDefault.afterAsks [blanked]).ask cleared).1 = some credential ∧
      credential.keys = ⟨"", ""⟩ ∧
      ∃ earlier q later, [blanked] ++ [cleared] = earlier ++ q :: later ∧
        (plainDefault.afterAsks earlier).kept? q.now = none ∧
        firstKeys? (plainDefault.afterAsks earlier) q = some credential.keys := by
  constructor
  · have hfirst : plainDefault.firstKeys? blanked = some ⟨"", ""⟩ := by decide +kernel
    exact ((keys_of_default none [] blanked).1 rfl).trans hfirst
  · have hlater : (given ((plainDefault.afterAsks [blanked]).ask cleared).1).map Credential.keys
        = some ⟨"", ""⟩ := by
      decide +kernel
    obtain ⟨credential, hgiven, hkeys⟩ := Option.map_eq_some_iff.mp hlater
    exact ⟨credential, hgiven, hkeys, (keys_of_default none [blanked] cleared).2 credential hgiven⟩

/-- An incomplete credential is handed out, although the profile has a complete one. -/
theorem exists_incomplete_of_default :
    ∃ first second : Credential,
      given (plainDefault.ask blanked).1 = some first ∧ ¬first.keys.IsComplete ∧
      given ((CredentialSource.ask (κ := Nowhere Credential)).outcome (.profile none, blanked)).1
        = some second ∧ second.keys.IsComplete ∧ second.isValid blanked.now = true := by
  have hfirst : ∃ first ∈ given (plainDefault.ask blanked).1, ¬first.keys.IsComplete := by
    decide +kernel
  have hsecond : ∃ second ∈ given ((CredentialSource.ask (κ := Nowhere Credential)).outcome
      (.profile none, blanked)).1, second.keys.IsComplete ∧ second.isValid blanked.now = true := by
    decide +kernel
  obtain ⟨first, hgiven, hincomplete⟩ := hfirst
  obtain ⟨second, hgiven', hcomplete⟩ := hsecond
  exact ⟨first, second, hgiven, hincomplete, hgiven', hcomplete⟩

end CredentialProvider

end AwsSigning
