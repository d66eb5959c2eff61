/-
AwsSigning/Error/Reason.lean

Every reason for which an operation of this library can fail.

Reasons are grouped by the part that gives them.  Each group has two
functions: the kind under which callers handle the reason, and the wording
under which people read it.  No wording stands anywhere else, so a statement
about a failure names a constructor and never a text.
-/
import AwsSigning.Http.Status
import AwsSigning.Text.Utf8

namespace AwsSigning

/-! ### Kinds -/

/-- What a caller can tell apart about a failure. -/
inductive ErrorKind where
  | configParse
  | configInvalid
  | valueOutOfRange
  | unsupported
  | unimplemented
  | credentialInvalid
  | permissionDenied
  | requestInvalid
  | unexpected
deriving DecidableEq, Repr

/-- All kinds. -/
def ErrorKind.all : List ErrorKind :=
  [configParse, configInvalid, valueOutOfRange, unsupported, unimplemented, credentialInvalid,
   permissionDenied, requestInvalid, unexpected]

/-- The name of a kind. -/
def ErrorKind.name : ErrorKind → String
  | configParse => "ConfigParse"
  | configInvalid => "ConfigInvalid"
  | valueOutOfRange => "ValueOutOfRange"
  | unsupported => "Unsupported"
  | unimplemented => "Unimplemented"
  | credentialInvalid => "CredentialInvalid"
  | permissionDenied => "PermissionDenied"
  | requestInvalid => "RequestInvalid"
  | unexpected => "Unexpected"

/-- The kind with a name. -/
def ErrorKind.ofName? (name : String) : Option ErrorKind := all.find? (·.name = name)

/-- The kind in words. -/
def ErrorKind.describe : ErrorKind → String
  | configParse => "malformed configuration file"
  | configInvalid => "invalid configuration"
  | valueOutOfRange => "value out of range"
  | unsupported => "unsupported value"
  | unimplemented => "unimplemented option"
  | credentialInvalid => "invalid credentials"
  | permissionDenied => "permission denied"
  | requestInvalid => "invalid request"
  | unexpected => "unexpected error"

/-! ### Parts of requests -/

/-- Why a text is no URI. -/
inductive UriFault where
  | tooLong
  | empty
  | character
  | format
  | authority
  | schemeTooLong
  | pathWithoutSlash
deriving DecidableEq, Repr

/-- The fault in words. -/
def UriFault.message : UriFault → String
  | tooLong => "uri too long"
  | empty => "empty string"
  | character => "invalid uri character"
  | format => "invalid format"
  | authority => "invalid authority"
  | schemeTooLong => "scheme too long"
  | pathWithoutSlash => "path does not start with slash"

/-- Why something is no part of a request. -/
inductive HttpFault where
  | method
  | headerName
  | headerValue
  | headerText
  | uri (fault : UriFault)
  | status
deriving DecidableEq, Repr

/-- The fault in words. -/
def HttpFault.message : HttpFault → String
  | method => "invalid HTTP method"
  | headerName => "invalid HTTP header name"
  | headerValue => "failed to parse header value"
  | headerText => "failed to convert header to a str"
  | uri fault => fault.message
  | status => "invalid status code"

/-! ### The platform -/

/-- What a platform cannot do. -/
inductive PlatformFault where
  | noFileReader
  | noHttpClient
  | fileNotFound
  | fileUnreadable
  | noResponseLeft
  | malformedTime
  | malformedUtf8 (fault : Utf8.Fault)
  | formatting
deriving DecidableEq, Repr

/-- The fault in words. -/
def PlatformFault.message : PlatformFault → String
  | noFileReader => "file reading not supported: no file reader configured"
  | noHttpClient => "HTTP sending not supported: no HTTP client configured"
  | fileNotFound => "file not found"
  | fileUnreadable => "file can't be read"
  | noResponseLeft => "no more canned responses"
  | malformedTime => "failed to parse rfc3339 time"
  | malformedUtf8 ⟨offset, none⟩ =>
    "incomplete utf-8 byte sequence from index " ++ toString offset
  | malformedUtf8 ⟨offset, some length⟩ =>
    "invalid utf-8 sequence of " ++ toString length ++ " bytes from index " ++ toString offset
  | formatting => "an error occurred when formatting an argument"

/-! ### Shared configuration -/

/-- Why a text is no configuration file. -/
inductive SyntaxFault where
  | expectedSection
  | expectedProperty
  | expectedSubProperty
  | openHeader
  | afterHeader
deriving DecidableEq, Repr

/-- The fault in words. -/
def SyntaxFault.message : SyntaxFault → String
  | expectedSection => "Expected a profile definition"
  | expectedProperty => "Expected a property definition"
  | expectedSubProperty => "Expected '=' specifying a sub-property"
  | openHeader => "Section definition must end with ']'"
  | afterHeader => "Unexpected content after section definition"

/-- Why a setting has no value. -/
inductive SettingFault where
  | noHome
  | noServices (name : String)
  | notBoolean (text : String)
  | notInteger (text : String)
  | attemptsTooFew (n : Int)
  | attemptsTooMany (n : Int)
  | adaptiveRetry
  | retryMode (text : String)
  | accountIdMode (text : String)
  | accountIdMissing
deriving DecidableEq, Repr

/-- How a caller handles the fault. -/
def SettingFault.kind : SettingFault → ErrorKind
  | noHome | noServices _ | notBoolean _ | notInteger _ | accountIdMissing => .configInvalid
  | attemptsTooFew _ | attemptsTooMany _ => .valueOutOfRange
  | adaptiveRetry => .unimplemented
  | retryMode _ | accountIdMode _ => .unsupported

/-- The fault in words. -/
def SettingFault.message : SettingFault → String
  | noHome => "Unable to determine user home directory"
  | noServices name => "shared config points to nonexistent services section '" ++ name ++ "'"
  | notBoolean text => "'" ++ text ++ "' is not a valid boolean, expected 'true' or 'false'"
  | notInteger text => "max attempts '" ++ text ++ "' is not an integer"
  | attemptsTooFew n => "max attempts must be at least 1, got " ++ toString n
  | attemptsTooMany n => "max attempts " ++ toString n ++ " is too large"
  | adaptiveRetry => "retry mode 'adaptive' is not implemented yet"
  | retryMode text => "retry mode '" ++ text
      ++ "' is not supported, expected one of 'legacy', 'standard' or 'adaptive'"
  | accountIdMode text => "account id endpoint mode '" ++ text
      ++ "' is not supported, expected one of 'preferred', 'disabled' or 'required'"
  | accountIdMissing => "AccountIdEndpointMode is set to required but no AWS account ID found"

/-! ### Providers -/

/-- Why a source of credentials or regions has nothing to give. -/
inductive ProviderFault where
  | emptyChain (what : String)
  | exhausted (what : String) (attempts : List String)
  | secretKeyMissing
  | accessKeyMissing
  | profileKeyMissing
deriving DecidableEq, Repr

/-- How a caller handles the fault. -/
def ProviderFault.kind : ProviderFault → ErrorKind
  | emptyChain _ | exhausted _ _ => .configInvalid
  | secretKeyMissing | accessKeyMissing | profileKeyMissing => .credentialInvalid

/-- The fault in words. -/
def ProviderFault.message : ProviderFault → String
  | emptyChain what => what ++ " provider chain must contain at least one provider"
  | exhausted what attempts => "no " ++ what ++ " found after trying every provider in chain: ["
      ++ "; ".intercalate attempts ++ "]"
  | secretKeyMissing => "access key id is set but secret access key is missing"
  | accessKeyMissing => "secret access key is set but access key id is missing"
  | profileKeyMissing => "profile must define both aws_access_key_id and aws_secret_access_key"

/-- Why the instance metadata service gave no answer, or no good one. -/
inductive MetadataFault where
  | tokenRequest
  | request
  | connect
  | send
  | tokenForbidden
  | denied (status : Status)
  | missing (status : Status)
  | server (status : Status)
  | unexpectedStatus (status : Status)
  | noRole
  | malformedCredentials
  | roleRefused (text : String)
  | expired (text : String)
  | refused (code text : String)
deriving DecidableEq, Repr

/-- How a caller handles the fault. -/
def MetadataFault.kind : MetadataFault → ErrorKind
  | tokenRequest | request => .requestInvalid
  | tokenForbidden | denied _ | roleRefused _ => .permissionDenied
  | missing _ | noRole => .configInvalid
  | expired _ => .credentialInvalid
  | connect | send | server _ | unexpectedStatus _ | malformedCredentials | refused _ _ => .unexpected

/-- The fault in words. -/
def MetadataFault.message : MetadataFault → String
  | tokenRequest => "failed to build IMDS token request"
  | request => "failed to build IMDS request"
  | connect => "failed to connect to IMDS"
  | send => "failed to send IMDS request"
  | tokenForbidden =>
    "Request forbidden: IMDS is disabled or the caller has insufficient permissions."
  | denied status => "IMDS denied access: " ++ status.describe
  | missing status => "IMDS resource not found: " ++ status.describe
  | server status => "IMDS server error: " ++ status.describe
  | unexpectedStatus status => "IMDS returned unexpected status: " ++ status.describe
  | noRole => "no IAM role attached to EC2 instance"
  | malformedCredentials => "failed to parse IMDS credentials response"
  | roleRefused text => "EC2 instance not authorized to assume role: " ++ text
  | expired text => "IMDS credentials expired: " ++ text
  | refused code text => "IMDS returned error: [" ++ code ++ "] " ++ text

/-! ### Signing -/

/-- Why a request cannot be signed. -/
inductive SigningFault where
  | noAuthority
  | blankRegion
  | blankService
  | credentialMissing
  | expiryMissing
  | asymmetric
  | headerNotVisible
  | pathNotUtf8
  | credentialUnavailable
  | credentialStale
  | streamNotReplayable
  | streamNotRewindable
deriving DecidableEq, Repr

/-- How a caller handles the fault. -/
def SigningFault.kind : SigningFault → ErrorKind
  | noAuthority | blankRegion | blankService | expiryMissing | headerNotVisible | pathNotUtf8
  | streamNotReplayable | streamNotRewindable => .requestInvalid
  | credentialMissing | credentialUnavailable | credentialStale => .credentialInvalid
  | asymmetric => .unimplemented

/-- The fault in words. -/
def SigningFault.message : SigningFault → String
  | noAuthority => "request without authority is invalid for signing"
  | blankRegion => "signing region must not be blank"
  | blankService => "signing service must not be blank"
  | credentialMissing => "signing credential is required"
  | expiryMissing => "presigned requests require a positive expiry"
  | asymmetric => "SigV4 asymmetric signing is not implemented yet"
  | headerNotVisible => "header value is not visible ascii"
  | pathNotUtf8 => "request path is not valid utf-8"
  | credentialUnavailable => "no credential available for signing"
  | credentialStale => "credential is incomplete or about to expire"
  | streamNotReplayable => "can't compute hash of a stream that is not replayable"
  | streamNotRewindable => "one-shot stream can't be reset"

/-! ### All together -/

/-- Why an operation failed. -/
inductive Reason where
  | http (fault : HttpFault)
  | platform (fault : PlatformFault)
  | config (fault : SyntaxFault)
  | setting (fault : SettingFault)
  | provider (fault : ProviderFault)
  | metadata (fault : MetadataFault)
  | signing (fault : SigningFault)
  /-- A reason given by a caller. -/
  | stated (kind : ErrorKind) (text : String)
deriving DecidableEq, Repr

namespace Reason

/-- How a caller handles the reason. -/
def kind : Reason → ErrorKind
  | http _ => .requestInvalid
  | platform _ => .unexpected
  | config _ => .configParse
  | setting fault => fault.kind
  | provider fault => fault.kind
  | metadata fault => fault.kind
  | signing fault => fault.kind
  | stated kind _ => kind

/-- The reason in words. -/
def message : Reason → String
  | http fault => fault.message
  | platform fault => fault.message
  | config fault => fault.message
  | setting fault => fault.message
  | provider fault => fault.message
  | metadata fault => fault.message
  | signing fault => fault.message
  | stated _ text => text

end Reason

end AwsSigning
