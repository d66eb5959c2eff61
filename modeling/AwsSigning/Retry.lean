/-
AwsSigning/Retry.lean

How requests are tried again, as configured.
-/
import AwsSigning.Setting.Catalog

namespace AwsSigning

/-- The options that are configured; what is not configured has its default. -/
def RetryOptions.resolve (p : Platform) (profile? : Option Section) :
    Except Error RetryOptions := do
  let attempts ← Setting.maxAttempts.resolve p profile?
  let mode ← Setting.retryMode.resolve p profile?
  let defaults : RetryOptions := {}
  pure {
    maxAttempts := attempts.getD defaults.maxAttempts
    mode := mode.getD defaults.mode }

end AwsSigning
