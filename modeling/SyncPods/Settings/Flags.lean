import SyncPods.Json.Value
import SyncPods.Shape
import SyncPods.Uuid

/-!
# Configured feature flags

Values of flags for everybody, and overrides for single connections and workspaces.
-/

namespace SyncPods

open Json

/-- An identifier in one of its spellings. -/
def Uuid.read {N E : Type} [Source N E] (node : N) : Except E Uuid := do
  let s ← Source.text "a formatted UUID string" node
  match Uuid.parse s with
  | .ok id => return id
  | .error refusal =>
    .error (Source.refuse N (.refused s!"UUID parsing failed: {refusal.message}"))

inductive FlagValue where
  | bool (value : Bool)
  | text (value : String)
deriving DecidableEq, Repr

namespace FlagValue

def read {N E : Type} [Source N E] (node : N) : Except E FlagValue := do
  match ← Source.boolOrText node with
  | some (.inl b) => return .bool b
  | some (.inr s) => return .text s
  | none => .error (Source.refuse N (.noVariant "FlagValue"))

def json : FlagValue → Value
  | .bool b => .bool b
  | .text s => .string s

end FlagValue

/-- A value of a flag for one connection or workspace, given by its identifier alone. -/
structure FlagOverride where
  flag : String
  context : Uuid
  value : FlagValue
deriving DecidableEq, Repr

namespace FlagOverride

def read {N E : Type} [Source N E] : N → Except E FlagOverride :=
  Source.record "FlagOverride" <|
    FlagOverride.mk <$> Shape.required "flag" Source.string <*>
      Shape.required "context" Uuid.read <*> Shape.required "value" FlagValue.read

def json (o : FlagOverride) : Value :=
  .object [("flag", .string o.flag), ("context", .string o.context.text), ("value", o.value.json)]

end FlagOverride

structure FlagSettings where
  values : Dict FlagValue
  overrides : List FlagOverride
deriving DecidableEq

namespace FlagSettings

def none : FlagSettings := ⟨∅, []⟩

instance : Inhabited FlagSettings := ⟨none⟩

/-- The value of a flag in a context: of the first override for both, else the one for everybody. -/
def lookup (s : FlagSettings) (flag : String) (context : Uuid) : Option FlagValue :=
  match s.overrides.find? fun o => o.flag == flag && o.context == context with
  | some o => some o.value
  | Option.none => s.values.get? flag

def read {N E : Type} [Source N E] : N → Except E FlagSettings :=
  Source.record "FeatureFlagsConfig" <|
    FlagSettings.mk <$> Shape.withDefault "values" (Source.dict FlagValue.read) ∅ <*>
      Shape.withDefault "overrides" (Source.list FlagOverride.read) []

def json (s : FlagSettings) : Value :=
  .object [("values", .object (s.values.entries.map fun (name, v) => (name, v.json))),
    ("overrides", .array (s.overrides.map FlagOverride.json))]

end FlagSettings

end SyncPods
