/-
AwsSigning/Proofs/Signing/Middleware.lean

How a middleware signs, told from its steps.

A request on the desk is signed in five steps: a credential is asked for, what
is signed in place of the payload is settled, the draft is built, the request
is signed, and the payload is rewound.  Each step changes only its own part
of the desk (`outcome_credential`, `outcome_payloadValue`), so a signing that
succeeds is these steps in a row (`sign_eq_ok_iff`).

What is signed in place of a payload is said by the first of a few rules that
applies (`rule?`); the digest is taken if none does.
-/
import AwsSigning.Proofs.Operation
import AwsSigning.Signing.Middleware

namespace AwsSigning.Signing.Middleware

variable {π σ : Type} {desk desk' : Desk π σ} {base : Draft}

/-! ### The credential -/

/-- What a provider gave, if it is good for signing now. -/
def usable (now : Instant) : Option Credential → Except Error Credential
  | none => .error (.signing .credentialUnavailable)
  | some credential =>
    if credential.isValid now then .ok credential else .error (.signing .credentialStale)

/-- A credential that the provider gave is handed on if it is good for signing now. -/
theorem outcome_credential [Source π Credential] (desk : Desk π σ) :
    credential.outcome desk =
      let asked := Source.ask.outcome (desk.provider, desk.platform)
      (asked.1.bind (usable asked.2.2.now),
        { desk with provider := asked.2.1, platform := asked.2.2 }) := by
  rw [credential, Operation.outcome_bind, Desk.onProvider, Operation.outcome_focus]
  rcases Source.ask.outcome (desk.provider, desk.platform) with ⟨e | found, provider, platform⟩
  · rfl
  rcases found with - | given
  · rfl
  · simp only [Operation.outcome_bind, Operation.outcome_get, Except.bind, usable]
    split <;> rfl

/-- Asking for a credential changes the provider and the platform only. -/
theorem exists_of_outcome_credential [Source π Credential] {asked : Desk π σ}
    {result : Except Error Credential} (h : credential.outcome desk = (result, asked)) :
    ∃ provider platform, asked = { desk with provider, platform } := by
  rw [outcome_credential] at h
  exact ⟨_, _, (Prod.mk.inj h).2.symm⟩

/-! ### The payload -/

/-- The digest of a payload is taken if nothing else applies. -/
theorem outcome_payloadValue_of_hashed [ByteStream σ] (hvalue : desk.context.payload = none)
    (hunsigned : desk.context.unsignedPayload = false) (hempty : desk.payload.isEmpty = false)
    (hunbounded : desk.payload.isUnbounded = false) :
    payloadValue.outcome desk =
      let digest := Payload.hexDigest.outcome desk.payload
      (digest.1.map .precomputed, { desk with payload := digest.2 }) := by
  simp only [payloadValue, Operation.outcome_bind, Operation.outcome_get, hvalue, hunsigned, hempty,
    hunbounded, Bool.false_eq_true, if_false, Operation.outcome_map]
  rfl

/-- What a rule has to say. -/
structure Rule where
  value : PayloadValue
  warnings : List String := []

/-- What the rules have to say about a payload, each in its turn. -/
def rules [ByteStream σ] (context : RequestContext) (payload : Payload σ) : List (Option Rule) :=
  [context.payload.map fun value => { value },
   if context.unsignedPayload then some { value := .unsigned } else none,
   if payload.isEmpty then some { value := .empty } else none,
   if payload.isUnbounded then some { value := .unsigned, warnings := [unboundedWarning] }
    else none]

/-- The first rule that applies. -/
def rule? [ByteStream σ] (context : RequestContext) (payload : Payload σ) : Option Rule :=
  (rules context payload).findSome? id

/-- The warnings of the rule that applies, if one does. -/
def warnings (rule : Option Rule) : List String := rule.elim [] (·.warnings)

/-- The platform with some more warnings. -/
def warned (platform : Platform) (warnings : List String) : Platform :=
  { platform with warnings := platform.warnings ++ warnings }

/-- **What is signed in place of a payload is said by the first rule that applies**, and the payload
is left alone; if none applies, its digest is taken. -/
theorem outcome_payloadValue [ByteStream σ] (desk : Desk π σ) :
    payloadValue.outcome desk =
      match rule? desk.context desk.payload with
      | some rule => (.ok rule.value, { desk with platform := warned desk.platform rule.warnings })
      | none =>
        let digest := Payload.hexDigest.outcome desk.payload
        (digest.1.map .precomputed, { desk with payload := digest.2 }) := by
  have hquiet : warned desk.platform [] = desk.platform := by
    rw [warned, List.append_nil]
  -- the procedure comes to a rule only if those before it do not apply
  rcases hvalue : desk.context.payload with - | value
  · rcases hunsigned : desk.context.unsignedPayload with - | -
    · rcases hempty : desk.payload.isEmpty with - | -
      · rcases hunbounded : desk.payload.isUnbounded with - | -
        · rw [outcome_payloadValue_of_hashed hvalue hunsigned hempty hunbounded]
          simp [rule?, rules, hvalue, hunsigned, hempty, hunbounded]
        · simp [rule?, rules, payloadValue, Operation.outcome_bind, hvalue, hunsigned, hempty,
            hunbounded, Operation.outcome_map, Except.map, Desk.warn, Platform.warn, warned]
      · simp [rule?, rules, payloadValue, Operation.outcome_bind, hvalue, hunsigned, hempty, hquiet]
    · simp [rule?, rules, payloadValue, Operation.outcome_bind, hvalue, hunsigned, hquiet]
  · simp [rule?, rules, payloadValue, Operation.outcome_bind, hvalue, hquiet]

/-! ### Signing -/

/-- The draft for a request on the desk, with what has been found out. -/
def filled (base : Draft) (desk : Desk π σ) (credential : Credential) (value : PayloadValue) :
    Draft :=
  { desk.context.refine base desk.platform.now with
    credential := some credential, payload := some value }

/-- The desk with a signed request, and its payload ready to be sent. -/
def signedDesk (desk : Desk π σ) (made : String) (bench : Bench) (payload : Payload σ) :
    Desk π σ :=
  { desk with
    request := bench.request
    working := bench.working
    context := { desk.context with signature := some made }
    payload }

/-- Once the request has been signed, the rewinding of its payload decides how it ends. -/
theorem sign_of_steps [Source π Credential] [ByteStream σ] {asked read : Desk π σ}
    {given : Credential} {value : PayloadValue} {config : Config} {made : String} {bench : Bench}
    {payload : Payload σ} {result : Except Error Unit}
    (hgiven : credential.outcome desk = (.ok given, asked))
    (hvalue : payloadValue.outcome asked = (.ok value, read))
    (hbuilt : (filled base desk given value).build desk.platform.now = .ok config)
    (hsigned : (Signing.sign config).outcome ⟨read.request, read.working⟩ = (.ok made, bench))
    (hrewound : Payload.rewind.outcome read.payload = (result, payload)) :
    (sign base).outcome desk = (result, signedDesk read made bench payload) := by
  have hconfig : Draft.build { desk.context.refine base desk.platform.now with
      credential := some given, payload := some value } desk.platform.now = .ok config := hbuilt
  simp only [sign, Operation.outcome_bind, Operation.outcome_get, hgiven, hvalue, hconfig,
    Operation.outcome_ofExcept, Desk.onBench, Operation.outcome_focus, hsigned,
    Operation.outcome_modify, Desk.onPayload, hrewound]
  rfl

/-- **A signing that succeeds is its five steps in a row.** -/
theorem sign_eq_ok_iff [Source π Credential] [ByteStream σ] :
    (sign base).outcome desk = (.ok (), desk') ↔
      ∃ given asked value read config made bench payload,
        credential.outcome desk = (.ok given, asked) ∧
        payloadValue.outcome asked = (.ok value, read) ∧
        (filled base desk given value).build desk.platform.now = .ok config ∧
        (Signing.sign config).outcome ⟨read.request, read.working⟩ = (.ok made, bench) ∧
        Payload.rewind.outcome read.payload = (.ok (), payload) ∧
        desk' = signedDesk read made bench payload := by
  constructor
  · intro h
    simp only [sign, Operation.outcome_bind_eq_ok_iff] at h
    obtain ⟨_, _, hget, given, asked, hgiven, value, read, hvalue, config, _, hconfig, made,
      signed, hmade, _, _, hnote, hrewind⟩ := h
    cases hget
    cases hnote
    obtain ⟨hbuilt, rfl⟩ := Prod.mk.inj hconfig
    obtain ⟨hsigned, rfl⟩ := Prod.mk.inj hmade
    obtain ⟨hrewound, rfl⟩ := Prod.mk.inj hrewind
    exact ⟨given, asked, value, read, config, made, _, _, hgiven, hvalue, hbuilt,
      Prod.ext hsigned rfl, Prod.ext hrewound rfl, rfl⟩
  · rintro ⟨given, asked, value, read, config, made, bench, payload, hgiven, hvalue, hbuilt,
      hsigned, hrewound, rfl⟩
    exact sign_of_steps hgiven hvalue hbuilt hsigned hrewound

end AwsSigning.Signing.Middleware
