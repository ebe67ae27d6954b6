import SyncPods.Dict

/-!
# Shapes of records

A record's shape lists its fields in order, each with its reader and with what holds when it is
absent. Shapes do not say what values are read from: a source says so, which is a type of nodes with
readers for the simple types, for lists and dictionaries, and for records of a shape.
-/

namespace SyncPods

/-- A value of the wrong shape. -/
inductive Mismatch where
  | wrongType (found expected : String)
  | wrongValue (found expected : String)
  | wrongLength (length : Nat) (expected : String)
  | missingField (name : String)
  | duplicateField (name : String)
  | noVariant (type : String)
  /-- A text that a type of its own refuses, with its reason. -/
  | refused (reason : String)
deriving DecidableEq, Repr

def Mismatch.message : Mismatch → String
  | .wrongType found expected => s!"invalid type: {found}, expected {expected}"
  | .wrongValue found expected => s!"invalid value: {found}, expected {expected}"
  | .wrongLength length expected => s!"invalid length {length}, expected {expected}"
  | .missingField name => s!"missing field `{name}`"
  | .duplicateField name => s!"duplicate field `{name}`"
  | .noVariant type => s!"data did not match any variant of untagged enum {type}"
  | .refused reason => reason

/-- How the fields of one record are found among the nodes of a source. -/
structure Found (N E : Type) where
  node? : String → Option N
  /-- The error of a field that has to be there. -/
  missing : String → E
  /-- The error, if any, of a field that is none when absent. -/
  gap? : String → Option E

/-- The names of the fields of an object, in which no field but a required one has to be there. -/
def Found.byName {N E : Type} (refuse : Mismatch → E) (node? : String → Option N) : Found N E where
  node?
  missing name := refuse (.missingField name)
  gap? _ := none

/-- The places of the fields in an array, which may lack only fields that have a default. The error
of an absent field names its place. -/
def Found.byPlace {N E : Type} (refuse : Mismatch → E) (type : String) (names : List String)
    (at? : Nat → Option N) : Found N E :=
  let noun := if names.length = 1 then "element" else "elements"
  let expected := s!"struct {type} with {names.length} {noun}"
  let absent (name : String) : E := refuse (.wrongLength (names.idxOf name) expected)
  { node? := fun name => at? (names.idxOf name)
    missing := absent
    gap? := fun name => some (absent name) }

/-- The fields of a record, each with a reader that only looks whether it can be read, and how the
record is built from what was found of them. -/
structure Shape (N E α : Type) where
  fields : List (String × (N → Except E Unit))
  build : Found N E → Except E α

namespace Shape

variable {N E α : Type}

instance : Applicative (Shape N E) where
  pure x := ⟨[], fun _ => .ok x⟩
  seq f x := ⟨f.fields ++ (x ()).fields, fun found => do
    let g ← f.build found
    return g (← (x ()).build found)⟩
  map g x := ⟨x.fields, fun found => (x.build found).map g⟩

def names (shape : Shape N E α) : List String := shape.fields.map (·.1)

/-- One field, and what holds when it is absent. -/
def field (name : String) (read : N → Except E α) (absent : Found N E → Except E α) :
    Shape N E α where
  fields := [(name, fun node => (read node).map fun _ => ())]
  build found :=
    match found.node? name with
    | some node => read node
    | none => absent found

/-- A field that has to be there. -/
def required (name : String) (read : N → Except E α) : Shape N E α :=
  field name read fun found => .error (found.missing name)

/-- A field with a value of its own when it is absent. -/
def withDefault (name : String) (read : N → Except E α) (default : α) : Shape N E α :=
  field name read fun _ => .ok default

/-- A field that is none when it is absent from an object. Its reader knows null. -/
def optional (name : String) (read : N → Except E (Option α)) : Shape N E (Option α) :=
  field name read fun found =>
    match found.gap? name with
    | some error => .error error
    | none => .ok none

end Shape

/-- A type of nodes that typed values can be read from. -/
class Source (N : Type) (E : outParam Type) where
  refuse : Mismatch → E
  /-- A text, which an error calls by the name. -/
  text : String → N → Except E String
  int64 : N → Except E Int
  /-- A truth value on the left or a text on the right, which is what the node holds and nothing
  that it could stand for; none of both for any other value. -/
  boolOrText : N → Except E (Option (Bool ⊕ String))
  orNull {α : Type} : (N → Except E α) → N → Except E (Option α)
  list {α : Type} : (N → Except E α) → N → Except E (List α)
  dict {α : Type} : (N → Except E α) → N → Except E (Dict α)
  /-- A record of the type, whose name an error tells, and of the shape. -/
  record {α : Type} : String → Shape N E α → N → Except E α

namespace Source

variable {N E : Type} [Source N E]

def string : N → Except E String := text "a string"

def optionalString : N → Except E (Option String) := orNull string

end Source

end SyncPods
