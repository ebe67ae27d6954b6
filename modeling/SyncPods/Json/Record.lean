import SyncPods.Json.Reader

/-!
# Reading records from JSON

A record is read from an object, whose members come in any order and may be unknown, or from an
array of the fields' values. The first problem in the order of the text decides; fields that are
missing show only at the end. A resource of a cluster is read from an object only.
-/

namespace SyncPods.Json

/-- The readers of a record's fields, by name. -/
abbrev FieldReaders := List (String × Reader Unit)

/-- The last member of a name. -/
def Members.find? (name : String) : Members → Option Node
  | .stop _ => none
  | .member other node rest =>
    match rest.find? name with
    | some later => some later
    | none => if other.toOption = some name then some node else none

/-- Goes through the members of a record in their order: a field comes once and holds a value of
its type, other members are passed over. -/
def Members.check (fields : FieldReaders) (seen : List String) : Members → Except Failure Unit
  | .stop (.cut fault _) => .error (.fault fault)
  | .stop _ => .ok ()
  | .member (.error fault) _ _ => .error (.fault fault)
  | .member (.ok name) node rest =>
    match valueOf? name fields with
    | some read =>
      if name ∈ seen then .error (.mismatch (.duplicateField name))
      else do
        read node
        rest.check fields (name :: seen)
    | none =>
      match node.skip with
      | some fault => .error (.fault fault)
      | none => rest.check fields seen

/-- Goes through the members of a resource: fields may come again. -/
def Members.checkResource (fields : FieldReaders) : Members → Except Failure Unit
  | .stop (.cut fault _) => .error (.fault fault)
  | .stop _ => .ok ()
  | .member (.error fault) _ _ => .error (.fault fault)
  | .member (.ok name) node rest =>
    match valueOf? name fields with
    | some read => do
      read node
      rest.checkResource fields
    | none =>
      match node.skip with
      | some fault => .error (.fault fault)
      | none => rest.checkResource fields

/-- The item at a place. Behind items that a fault cuts off stands a node with that fault. -/
def Items.at? : Items → Nat → Option Node
  | .stop (.cut read skipped), _ => some (.unreadable read (some skipped))
  | .stop _, _ => none
  | .item node _, 0 => some node
  | .item _ rest, place + 1 => rest.at? place

def Items.length : Items → Nat
  | .stop _ => 0
  | .item _ rest => rest.length + 1

def Items.ending : Items → Ending
  | .stop ending => ending
  | .item _ rest => rest.ending

/-- The failure, if any, of items that should be no more than `count`. -/
def Items.surplus? (items : Items) (count : Nat) : Option Failure :=
  match items.ending, items.at? count with
  | .counted, some _ =>
    some (.mismatch (.wrongLength items.length "fewer elements in array"))
  | _, some (.unreadable .commaAtEnd _) => some (.fault .commaAtEnd)
  | _, some (.unreadable .endInList _) => some (.fault .endInList)
  | _, some _ => some (.fault .surplus)
  | _, none => none

/-- A record of the type and shape, from an object or an array. -/
def Node.record {α : Type} (type : String) (shape : Shape Node Failure α) : Reader α
  | .object members => do
    members.check shape.fields []
    shape.build (Found.byName .mismatch (members.find? ·))
  | .array items => do
    let x ← shape.build (Found.byPlace .mismatch type shape.names items.at?)
    match items.surplus? shape.fields.length with
    | some failure => .error failure
    | none => return x
  | node => .error (node.unexpected s!"struct {type}")

/-- A resource of a cluster, from an object only; of a repeated field the last counts. -/
def Node.resource {α : Type} (type : String) (shape : Shape Node Failure α) : Reader α
  | .object members => do
    members.checkResource shape.fields
    shape.build (Found.byName .mismatch (members.find? ·))
  | node => .error (node.unexpected type)

instance : Source Node Failure where
  refuse := .mismatch
  text := Node.textAs
  int64 := Node.int64
  boolOrText := Node.boolOrText
  orNull := Node.orNull
  list := Node.list
  dict := Node.dict
  record := Node.record

end SyncPods.Json
