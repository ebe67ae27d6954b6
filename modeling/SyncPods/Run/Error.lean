import SyncPods.Run.Request

/-!
# Why a pod cannot be assembled
-/

namespace SyncPods

inductive FlagError where
  /-- The flag is configured with a value of another type than the expected one. -/
  | typeMismatch (flag expected : String)
  /-- The service that knows the flags did not answer. -/
  | unavailable (reason : String)
deriving DecidableEq, Repr

def FlagError.message : FlagError → String
  | .typeMismatch flag expected => s!"flag `{flag}` is configured with a non-{expected} value"
  | .unavailable reason => s!"flag service unavailable: {reason}"

inductive BuildError where
  | missingImage (role : Role)
  | invalidQuantity (role : Role) (resource value : String)
  | flag (error : FlagError)
  /-- A part that somebody else supplies failed. -/
  | supplier (reason : String)
deriving DecidableEq, Repr

namespace BuildError

def message : BuildError → String
  | .missingImage role => s!"the {role.name} container image is required"
  | .invalidQuantity role resource value =>
    s!"invalid {resource} quantity `{value}` for the {role.name} container"
  | .flag error => s!"feature flag evaluation failed: {error.message}"
  | .supplier reason => reason

/-- The messages of an error and of what caused it, outermost first. -/
def chain : BuildError → List String
  | .flag error => [message (.flag error), error.message]
  | error => [error.message]

end BuildError

end SyncPods
