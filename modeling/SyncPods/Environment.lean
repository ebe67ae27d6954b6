import SyncPods.Text.LowerCase

/-!
# Environments

The environments that the launcher runs in. The environment decides which settings are read over
the base settings and whether logs go to files.
-/

namespace SyncPods

inductive Environment where
  | prod
  | staging
  | dev
deriving DecidableEq, Repr

namespace Environment

def name : Environment → String
  | .prod => "prod"
  | .staging => "staging"
  | .dev => "dev"

/-- Whether the launcher is deployed in the environment, and so logs to files. -/
def isDeployed : Environment → Bool
  | .dev => false
  | _ => true

/-- A text that names no environment, in small letters. -/
structure Unsupported where
  name : String
deriving DecidableEq, Repr

def Unsupported.message (e : Unsupported) : String :=
  e.name ++ " is not a supported environment. Use either `prod`/`staging`/`dev`."

/-- The environment that a text names in letters of any case. -/
def parse (s : String) : Except Unsupported Environment :=
  match Text.toLower s with
  | "prod" => .ok .prod
  | "staging" => .ok .staging
  | "dev" => .ok .dev
  | other => .error ⟨other⟩

/-- The environment that a variable names, which is production where the variable is not set. -/
def ofVariable (value : Option String) : Except Unsupported Environment :=
  match value with
  | some s => parse s
  | none => .ok .prod

end Environment

end SyncPods
