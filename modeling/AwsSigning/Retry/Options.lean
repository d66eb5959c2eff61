/-
AwsSigning/Retry/Options.lean

How often and in which manner requests are tried again, and how texts spell it.

The number of attempts counts the first try and fits into 32 bits.  A text
for it is read as an integer of 64 bits first: what is not one is no integer
at all, and what is one but outside of 1 to 2³² - 1 is out of range.
-/
import AwsSigning.Setting

namespace AwsSigning

/-! ### Modes -/

/-- In which manner requests are tried again. -/
inductive RetryMode where
  /-- As before there was a standard. -/
  | legacy
  /-- With growing waits and a quota. -/
  | standard
  /-- With a limit on the rate of requests as well. -/
  | adaptive
deriving DecidableEq, Repr

namespace RetryMode

/-- The word for a mode. -/
def word : RetryMode → String
  | legacy => "legacy"
  | standard => "standard"
  | adaptive => "adaptive"

/-- The name of a mode in descriptions. -/
def describe : RetryMode → String
  | legacy => "Legacy"
  | standard => "Standard"
  | adaptive => "Adaptive"

/-- The mode with a word. -/
def ofWord? (word : String) : Option RetryMode :=
  if word = "legacy" then some legacy
  else if word = "standard" then some standard
  else if word = "adaptive" then some adaptive
  else none

/-- The mode that a text spells.  The adaptive mode is known, but there is none to be had. -/
def read (text : String) : Except Error RetryMode :=
  match ofWord? (Setting.plain text) with
  | some adaptive => .error (.setting .adaptiveRetry)
  | some mode => .ok mode
  | none => .error (.setting (.retryMode text))

end RetryMode

/-! ### Attempts -/

namespace Attempts

/-- The number spelled by decimal digits; there has to be at least one. -/
def ofDigits? (digits : List Char) : Option Nat :=
  if digits ≠ [] ∧ digits.all Char.isDigit then
    some (digits.foldl (fun n c => n * 10 + (c.toNat - 48)) 0)
  else none

/-- The integer spelled by digits behind an optional sign. -/
def integer? (s : List Char) : Option Int :=
  match s with
  | '+' :: digits => (ofDigits? digits).map Int.ofNat
  | '-' :: digits => (ofDigits? digits).map fun n => -(n : Int)
  | digits => (ofDigits? digits).map Int.ofNat

/-- The integer spelled by a text, if it fits into 64 bits. -/
def integer64? (s : List Char) : Option Int :=
  (integer? s).filter fun n => -0x8000000000000000 ≤ n && n < 0x8000000000000000

/-- The number of attempts that a text spells. -/
def read (text : String) : Except Error Nat :=
  match integer64? (Text.trim text.toList) with
  | none => .error (Error.setting (.notInteger text)).causedOutside
  | some n =>
    if n < 1 then .error (.setting (.attemptsTooFew n))
    else if n ≤ 0xFFFFFFFF then .ok n.toNat
    else .error (.setting (.attemptsTooMany n))

end Attempts

/-! ### Options -/

/-- How requests are tried again. -/
structure RetryOptions where
  /-- The number of attempts, the first one included. -/
  maxAttempts : Nat := 3
  /-- The manner. -/
  mode : RetryMode := .standard
deriving DecidableEq, Repr

/-- The options in words. -/
def RetryOptions.describe (r : RetryOptions) : String :=
  Text.describeRecord "RetryStrategyOptions"
    [("max_attempts", toString r.maxAttempts), ("retry_mode", r.mode.describe)]

end AwsSigning
