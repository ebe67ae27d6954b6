import SyncPods.Run.Error

/-!
# Evaluating feature flags

A flag has a type and a value for the case that nothing is configured. It is evaluated for one
connection or one workspace.
-/

namespace SyncPods

structure TextFlag where
  key : String
  default : String
deriving DecidableEq, Repr

structure BoolFlag where
  key : String
  default : Bool
deriving DecidableEq, Repr

/-- The scheduler that pods are assigned to. -/
def schedulerFlag : TextFlag := ⟨"replication-pod-scheduler-name", "default-scheduler"⟩

/-- Whether pods of a workspace go without the service account. -/
def removeAccountFlag : BoolFlag := ⟨"remove-service-account", false⟩

/-- What a flag is evaluated for. -/
inductive FlagContext where
  | connection (id : Uuid)
  | workspace (id : Uuid)
deriving DecidableEq, Repr

namespace FlagContext

/-- No connection in particular. -/
def anonymous : FlagContext := .connection Uuid.nil

def id : FlagContext → Uuid
  | .connection id => id
  | .workspace id => id

def name : FlagContext → String
  | .connection id => "connection:" ++ id.text
  | .workspace id => "workspace:" ++ id.text

end FlagContext

namespace FlagSettings

def evaluateText (s : FlagSettings) (flag : TextFlag) (context : FlagContext) :
    Except FlagError String :=
  match s.lookup flag.key context.id with
  | Option.none => .ok flag.default
  | some (.text value) => .ok value
  | some (.bool _) => .error (.typeMismatch flag.key "string")

/-- Whether the flag is on. Values from the environment may say so in words. -/
def evaluateBool (s : FlagSettings) (flag : BoolFlag) (context : FlagContext) :
    Except FlagError Bool :=
  match s.lookup flag.key context.id with
  | Option.none => .ok flag.default
  | some (.bool value) => .ok value
  | some (.text "true") => .ok true
  | some (.text "false") => .ok false
  | some (.text _) => .error (.typeMismatch flag.key "boolean")

end FlagSettings

end SyncPods
