/-
AwsSigning/Provider/Credentials.lean

The sources of credentials: the process, a profile, the metadata service, a
fixed credential, and sources of the caller's own.

A source with half a key pair fails, since something is wrong there; a source
with nothing has no credential.  The metadata service hands out what belongs
to the role of the instance, and says in a document of its own whether that
worked.
-/
import AwsSigning.Credential
import AwsSigning.Metadata.Client
import AwsSigning.Metadata.Document
import AwsSigning.Provider
import AwsSigning.SharedConfig
import AwsSigning.Time.Rfc3339

namespace AwsSigning

instance : Provided Credential where
  what := "credentials"
  expiry := Credential.expiry

/-! ### The process -/

namespace Credential

/-- The credential among properties and variables. -/
def ofProcess (p : Platform) : Except Error (Option Credential) := do
  let accessKeyId ← Setting.accessKeyId.resolveFromProcess p
  let secretAccessKey ← Setting.secretAccessKey.resolveFromProcess p
  match accessKeyId, secretAccessKey with
  | some accessKeyId, some secretAccessKey =>
    let sessionToken ← Setting.sessionToken.resolveFromProcess p
    pure (some { accessKeyId, secretAccessKey, sessionToken })
  | none, none => pure none
  | some _, none =>
    throw ((Error.provider .secretKeyMissing).within
      ("env: " ++ Setting.secretAccessKey.envVariable))
  | none, some _ =>
    throw ((Error.provider .accessKeyMissing).within ("env: " ++ Setting.accessKeyId.envVariable))

/-! ### Profiles -/

/-- The credential in a profile. -/
def ofProfile (profile : Section) : Except Error (Option Credential) :=
  match profile.get? "aws_access_key_id", profile.get? "aws_secret_access_key" with
  | some accessKeyId, some secretAccessKey =>
    .ok (some { accessKeyId, secretAccessKey, sessionToken := profile.get? "aws_session_token" })
  | none, none => .ok none
  | _, _ => .error ((Error.provider .profileKeyMissing).within ("profile: " ++ profile.name))

/-- The credential in the profile of a name, or in the active one. -/
def ofSharedConfig (profile? : Option String) : Operation Platform (Option Credential) := do
  let config ← SharedConfig.load profile?
  Operation.ofExcept (ofProfile config.activeProfile)

end Credential

/-! ### Instance metadata -/

namespace Metadata

/-- The metadata service is not to be used. -/
def isDisabled (p : Platform) : Except Error Bool :=
  (Setting.metadataDisabled.resolveFromProcess p).map (·.getD false)

/-- The path under which credentials are handed out. -/
def credentialsPath : String := "/latest/meta-data/iam/security-credentials/"

/-- The first role in a list of roles, one on a line. -/
def firstRole? (roles : String) : Option String :=
  (((Text.lines roles.toList).map Text.trim).find? (· ≠ [])).map String.ofList

/-- A text stands somewhere in another one. -/
def mentions (part : List Char) : List Char → Bool
  | [] => part.isEmpty
  | c :: rest => part.isPrefixOf (c :: rest) || mentions part rest

/-- What a document reports other than success. -/
def Document.fault (d : Document) : MetadataFault :=
  if d.code = "AssumeRoleUnauthorizedAccess" then .roleRefused d.message
  else if mentions "Expired".toList d.code.toList then .expired d.message
  else .refused d.code d.message

/-- The failure that a document reports, if it reports one. -/
def Document.failure? (d : Document) (role : String) : Option Error :=
  if d.code = "Success" then none
  else
    let e := Error.metadata d.fault
    match d.fault with
    | .refused _ _ => some (e.within ("role: " ++ role))
    | _ => some ((e.within ("error_code: " ++ d.code)).within ("role: " ++ role))

/-- The credential in a document. -/
def Document.credential (d : Document) : Except Error Credential := do
  let expiry ← Rfc3339.parse d.expiration
  pure {
    accessKeyId := d.accessKeyId
    secretAccessKey := d.secretAccessKey
    sessionToken := some d.token
    expiry := some expiry }

/-- The credential that the metadata service sent for a role. -/
def credentialOf (role content : String) : Except Error Credential :=
  match Document.parse? content with
  | none =>
    .error ((Error.metadata .malformedCredentials).causedOutside.within
      ("response_length: " ++ toString content.utf8ByteSize) |>.within ("role: " ++ role))
  | some document =>
    match document.failure? role with
    | some e => .error e
    | none => document.credential

/-- The credential of the role of the instance. -/
def fetchCredential : Operation Session (Option Credential) := do
  let (_, p) ← get
  if ← Operation.ofExcept (isDisabled p) then pure none
  else
    let roles ← Client.fetch credentialsPath
    match firstRole? roles with
    | none =>
      Operation.fail ((Error.metadata .noRole).within
        "hint: attach an IAM role to your EC2 instance")
    | some role =>
      let content ← (Client.fetch (credentialsPath ++ role)).mapFailure (·.within ("role: " ++ role))
      some <$> Operation.ofExcept (credentialOf role content)

end Metadata

/-! ### All sources -/

/-- A source of credentials; `κ` holds the sources of the caller's own. -/
inductive CredentialSource (κ : Type) where
  /-- Properties and environment variables. -/
  | process
  /-- A profile, by name or the active one. -/
  | profile (name? : Option String)
  /-- The metadata service. -/
  | metadata (client : Metadata.Client)
  /-- One credential for ever. -/
  | fixed (credential : Credential)
  /-- A source of the caller's own. -/
  | custom (state : κ)

namespace CredentialSource

variable {κ : Type}

/-- The credential of a source, if there is one. -/
def ask [Source κ Credential] :
    Operation (CredentialSource κ × Platform) (Option Credential) := Operation.of fun (source, p) =>
  match source with
  | process => (Credential.ofProcess p, process, p)
  | profile name? =>
    let (result, p) := (Credential.ofSharedConfig name?).outcome p
    (result, profile name?, p)
  | metadata client =>
    let (result, client, p) := Metadata.fetchCredential.outcome (client, p)
    (result, metadata client, p)
  | fixed credential => (.ok (some credential), fixed credential, p)
  | custom state =>
    let (result, state, p) := Source.ask.outcome (state, p)
    (result, custom state, p)

/-- The source in words. -/
def describe [Source κ Credential] : CredentialSource κ → String
  | process => "EnvCredentialProvider"
  | profile name? =>
    Text.describeRecord "ProfileCredentialProvider"
      [("profile", Text.describeOption Text.quote name?)]
  | metadata client =>
    Text.describeRecord "ImdsCredentialProvider" [("client", client.describe)]
  | fixed credential =>
    Text.describeRecord "StaticCredentialProvider" [("credential", credential.describe)]
  | custom state => Source.describe state

end CredentialSource

instance {κ : Type} [Source κ Credential] : Source (CredentialSource κ) Credential where
  ask := CredentialSource.ask
  describe := CredentialSource.describe

/-! ### The default chain -/

/-- A provider of credentials. -/
abbrev CredentialProvider (κ : Type) := Provider (CredentialSource κ) Credential

namespace CredentialProvider

variable {κ : Type}

/-- The sources that are asked if nothing else is said: the process, a profile and the metadata
service. -/
def defaultMembers (profile? : Option String) : List (CredentialProvider κ) :=
  [.source .process, .source (.profile profile?), .source (.metadata {})]

/-- Some providers as a chain that keeps what it found. -/
def keeping (members : List (CredentialProvider κ)) : CredentialProvider κ :=
  .chain (.keeping "DefaultCredentialProvider" { margin := .ofSeconds 10 }) members

/-- The provider that is used if nothing else is said. -/
def default (profile? : Option String) : CredentialProvider κ := keeping (defaultMembers profile?)

end CredentialProvider

end AwsSigning
