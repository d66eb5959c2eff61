/-
AwsSigning/Provider.lean

Where values such as credentials and regions come from.

A *source* is asked for a value and gives one, gives none, or fails.  A
*chain* asks its members one after the other and takes the first value; a
member that fails is passed over with a warning.  Members may be chains
themselves, so a provider is a tree with sources at its leaves
(`Provider`), and asking it is a walk from left to right that stops at the
first value.

A chain that runs out of members has no value, which is no failure when it is
a member of another chain.  Only `Provider.resolve`, and a chain that keeps
what it found, insist on a value, and then the failure tells what each direct
member did.
-/
import AwsSigning.Cached
import AwsSigning.Platform

namespace AwsSigning

/-! ### Values and sources -/

/-- Types of values that are asked for. -/
class Provided (α : Type) where
  /-- What such values are called. -/
  what : String
  /-- When a value stops working, if it ever does. -/
  expiry : α → Option Instant

/-- Types whose values can be asked for something.  Asking may change the one who is asked. -/
class Source (σ : Type) (α : outParam Type) where
  /-- The value, or none if there is none here. -/
  ask : Operation (σ × Platform) (Option α)
  /-- The source in words, without secrets. -/
  describe : σ → String

/-- There are no sources of this kind. -/
inductive Nowhere (α : Type)

instance : Source (Nowhere α) α where
  ask := Operation.of fun (source, _) => nomatch source
  describe source := nomatch source

/-! ### Trees -/

/-- What a chain is besides its members. -/
inductive Role (α : Type) where
  /-- Nothing else. -/
  | plain
  /-- It goes by a name of its own. -/
  | named (name : String)
  /-- It goes by a name of its own and keeps what it found. -/
  | keeping (name : String) (cell : Cached α)
deriving DecidableEq, Repr

/-- A source, or a chain of providers. -/
inductive Provider (σ α : Type) where
  /-- A source. -/
  | source (state : σ)
  /-- Providers that are asked in order. -/
  | chain (role : Role α) (members : List (Provider σ α))

namespace Role

/-- How long a chain keeps a value that never expires. -/
def refreshInterval : Duration := .ofMinutes 15

/-- The value that a chain has kept. -/
def kept? (role : Role α) (now : Instant) : Option α :=
  match role with
  | keeping _ cell => cell.get? now
  | _ => none

/-- The chain after it found a value. -/
def keep [Provided α] (role : Role α) (value : α) (now : Instant) : Role α :=
  match role with
  | keeping name cell =>
    let expiry := (Provided.expiry value).getD (now.add refreshInterval)
    keeping name (cell.install ⟨value, some expiry⟩)
  | other => other

/-- A chain in words, given those of its members. -/
def describe (role : Role α) (members : List String) : String :=
  match role with
  | plain => Text.describeList members
  | named name => Text.describeRecord name [("chain", Text.describeList members)]
  | keeping name cell =>
    Text.describeRecord name [("chain", Text.describeList members), ("cache", cell.describe)]

end Role

/-! ### What the members of a chain did -/

/-- A member of a chain that gave no value. -/
structure Attempt where
  /-- The member in words. -/
  provider : String
  /-- Why it gave none, if it failed. -/
  failure : Option Error

/-- The attempt in words. -/
def Attempt.describe (a : Attempt) : String :=
  match a.failure with
  | none => a.provider ++ ": not found"
  | some e => a.provider ++ ": failed: " ++ e.describe

/-- No member of a chain gave a value. -/
def exhausted (what : String) (attempts : List Attempt) : Error :=
  .provider (.exhausted what (attempts.map Attempt.describe))

/-- The failure to give a value that a chain turns an outcome into, if it insists on one. -/
def Role.settle [Provided α] (role : Role α) (found : Except (List Attempt) α) :
    Except Error (Option α) :=
  match found, role with
  | .ok value, _ => .ok (some value)
  | .error attempts, .keeping _ _ => .error (exhausted (Provided.what α) attempts)
  | .error _, _ => .ok none

namespace Provider

variable {σ α : Type}

/-! ### Description -/

mutual

/-- The provider in words. -/
def describe [Source σ α] : Provider σ α → String
  | source s => Source.describe s
  | chain role members => role.describe (describeMembers members)

/-- The members of a chain in words. -/
def describeMembers [Source σ α] : List (Provider σ α) → List String
  | [] => []
  | member :: rest => describe member :: describeMembers rest

end

/-! ### Asking -/

/-- The warning about a member that failed. -/
def warning (what provider : String) (e : Error) : String :=
  "error loading " ++ what ++ " from provider " ++ provider ++ ": " ++ e.describe

/-- The chain with one more attempt at its front. -/
def recordAttempt (attempt : Attempt) (found : Except (List Attempt) α) :
    Except (List Attempt) α :=
  found.mapError (attempt :: ·)

mutual

/-- Ask a provider: the outcome, and the provider and the platform after it. -/
def ask [Source σ α] [Provided α] :
    Provider σ α → Platform → Except Error (Option α) × Provider σ α × Platform
  | source s, p =>
    let (result, s, p) := (Source.ask (σ := σ)).outcome (s, p)
    (result, source s, p)
  | chain role members, p =>
    match role.kept? p.now with
    | some value => (.ok (some value), chain role members, p)
    | none =>
      match askMembers members p with
      | (.ok value, members, p) => (.ok (some value), chain (role.keep value p.now) members, p)
      | (.error attempts, members, p) => (role.settle (.error attempts), chain role members, p)

/-- Ask the members of a chain in order, up to the first value. -/
def askMembers [Source σ α] [Provided α] :
    List (Provider σ α) → Platform → Except (List Attempt) α × List (Provider σ α) × Platform
  | [], p => (.error [], [], p)
  | member :: rest, p =>
    match ask member p with
    | (.ok (some value), member, p) => (.ok value, member :: rest, p)
    | (.ok none, member, p) =>
      let (found, rest, p) := askMembers rest p
      (recordAttempt ⟨describe member, none⟩ found, member :: rest, p)
    | (.error e, member, p) =>
      let (found, rest, p) :=
        askMembers rest (p.warn (warning (Provided.what α) (describe member) e))
      (recordAttempt ⟨describe member, some e⟩ found, member :: rest, p)

end

/-- A provider is itself a source. -/
instance [Source σ α] [Provided α] : Source (Provider σ α) α where
  ask := Operation.of fun (provider, p) => provider.ask p
  describe := describe

/-! ### Insisting on a value -/

/-- The providers that a provider consists of. -/
def members : Provider σ α → List (Provider σ α)
  | source s => [source s]
  | chain _ members => members

/-- The provider with other members. -/
def withMembers : Provider σ α → List (Provider σ α) → Provider σ α
  | source _, [member] => member
  | source s, _ => source s
  | chain role _, members => chain role members

/-- Ask the members of a provider for a value; it is a failure if none has one. -/
def resolve [Source σ α] [Provided α] : Operation (Provider σ α × Platform) α :=
  Operation.of fun (provider, p) =>
    let (found, members, p) := askMembers provider.members p
    (found.mapError (exhausted (Provided.what α)), provider.withMembers members, p)

/-- A chain of providers; there has to be one at least. -/
def chainOf [Provided α] (members : List (Provider σ α)) : Except Error (Provider σ α) :=
  if members.isEmpty then .error (.provider (.emptyChain (Provided.what α)))
  else .ok (chain .plain members)

end Provider

end AwsSigning
