/-
AwsSigning/Error.lean

Failures: a reason, the circumstances that were added on the way up, whether
trying again may help, and what caused it.
-/
import AwsSigning.Error.Reason

namespace AwsSigning

/-! ### The record -/

/-- What lies behind a failure. -/
inductive Cause (ε : Type) where
  /-- A failure outside this library. -/
  | external
  /-- A failure of this library. -/
  | failure (error : ε)
deriving Repr

/-- A failure. -/
structure Error where
  /-- Why it failed. -/
  reason : Reason
  /-- Circumstances, in the order in which they were added. -/
  context : List String
  /-- Whether trying again may help. -/
  retryable : Bool
  /-- What lies behind it. -/
  cause : Option (Cause Error)

namespace Error

/-- A failure without circumstances. -/
def of (reason : Reason) : Error := ⟨reason, [], false, none⟩

/-- The failure with one more circumstance. -/
def within (e : Error) (circumstance : String) : Error :=
  { e with context := e.context ++ [circumstance] }

/-- The failure, marked as worth another try. -/
def worthRetry (e : Error) : Error := { e with retryable := true }

/-- The failure, caused by another one. -/
def causedBy (e cause : Error) : Error := { e with cause := some (.failure cause) }

/-- The failure, caused by something outside this library. -/
def causedOutside (e : Error) : Error := { e with cause := some .external }

/-! ### The groups of reasons -/

/-- A part of a request is malformed. -/
def http (fault : HttpFault) : Error := (of (.http fault)).causedOutside

/-- The platform cannot do something. -/
def platform (fault : PlatformFault) : Error := of (.platform fault)

/-- A configuration file is malformed at a line. -/
def config (fault : SyntaxFault) (line : Nat) : Error :=
  (of (.config fault)).within ("line: " ++ toString line)

/-- A setting has no value. -/
def setting (fault : SettingFault) : Error := of (.setting fault)

/-- A source has nothing to give. -/
def provider (fault : ProviderFault) : Error := of (.provider fault)

/-- The metadata service gave no good answer. -/
def metadata (fault : MetadataFault) : Error := of (.metadata fault)

/-- A request cannot be signed. -/
def signing (fault : SigningFault) : Error := of (.signing fault)

/-- Bytes that had to be text are not. -/
def malformedUtf8 (fault : Utf8.Fault) : Error := (platform (.malformedUtf8 fault)).causedOutside

/-! ### Reading a failure -/

/-- The kind under which callers handle the failure. -/
def kind (e : Error) : ErrorKind := e.reason.kind

/-- The bare wording. -/
def message (e : Error) : String := e.reason.message

/-- Other credentials could help. -/
def isCredentialError (e : Error) : Bool :=
  e.kind = .credentialInvalid || e.kind = .permissionDenied

/-- The wording followed by the circumstances in brackets. -/
def describe (e : Error) : String :=
  if e.context = [] then e.message
  else e.message ++ " (" ++ ", ".intercalate e.context ++ ")"

end Error

end AwsSigning
