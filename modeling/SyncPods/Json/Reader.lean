import SyncPods.Json.Node
import SyncPods.Shape
import SyncPods.Text.Quoted

/-!
# Reading typed values from JSON

A reader goes through a node from its start and stops at the first fault of the text or the first
value of a wrong shape. Readers of the simple types stand here.
-/

namespace SyncPods.Json

inductive Failure where
  | fault (fault : Fault)
  | mismatch (mismatch : Mismatch)
deriving DecidableEq, Repr

def Failure.message : Failure → String
  | fault f => f.message
  | mismatch m => m.message

/-- A number as messages name it. -/
def Number.described : Number → String
  | .integer n => s!"integer `{n}`"
  | .float x => s!"floating point `{x.scientific}`"

/-- A node as messages name it. -/
def Node.described : Node → String
  | .null => "null"
  | .bool b => s!"boolean `{b}`"
  | .number n => n.described
  | .string s => "string " ++ Text.quoted s
  | .array _ => "sequence"
  | .object _ => "map"
  | .unreadable _ _ => "nothing"

/-- A reader of values of a type. -/
abbrev Reader (α : Type) := Node → Except Failure α

namespace Node

/-- The failure of a node that is not what was expected. -/
def unexpected (node : Node) (expected : String) : Failure :=
  match node with
  | .unreadable fault _ => .fault fault
  | node => .mismatch (.wrongType node.described expected)

/-- A text, which an error calls by the name. -/
def textAs (expected : String) : Reader String
  | .string s => .ok s
  | node => .error (node.unexpected expected)

def text : Reader String := textAs "a string"

def flag : Reader Bool
  | .bool b => .ok b
  | node => .error (node.unexpected "a boolean")

/-- A whole number between two bounds, in a type of the name. -/
def wholeNumber (type : String) (least greatest : Int) : Reader Int
  | .number (.integer n) =>
    if least ≤ n ∧ n ≤ greatest then .ok n
    else .error (.mismatch (.wrongValue (Number.described (.integer n)) type))
  | node => .error (node.unexpected type)

def int64 : Reader Int := wholeNumber "i64" (-Nat.pow 2 63) (Nat.pow 2 63 - 1)

def orNull {α : Type} (read : Reader α) : Reader (Option α)
  | .null => .ok none
  | node => (read node).map some

/-- A truth value or a text; any other value is read, too. -/
def boolOrText : Reader (Option (Bool ⊕ String)) := fun node =>
  match node.value with
  | .error fault => .error (.fault fault)
  | .ok (.bool b) => .ok (some (.inl b))
  | .ok (.string s) => .ok (some (.inr s))
  | .ok _ => .ok none

end Node

def Items.readAll {α : Type} (read : Reader α) : Items → Except Failure (List α)
  | .stop (.cut fault _) => .error (.fault fault)
  | .stop _ => .ok []
  | .item node rest => do
    let x ← read node
    return x :: (← rest.readAll read)

/-- The members of an object, each read in turn; of one name the last counts. -/
def Members.readAll {α : Type} (read : Reader α) (sofar : Dict α) :
    Members → Except Failure (Dict α)
  | .stop (.cut fault _) => .error (.fault fault)
  | .stop _ => .ok sofar
  | .member (.error fault) _ _ => .error (.fault fault)
  | .member (.ok name) node rest => do
    let x ← read node
    rest.readAll read (sofar.insert name x)

namespace Node

def list {α : Type} (read : Reader α) : Reader (List α)
  | .array items => items.readAll read
  | node => .error (node.unexpected "a sequence")

def dict {α : Type} (read : Reader α) : Reader (Dict α)
  | .object members => members.readAll read ∅
  | node => .error (node.unexpected "a map")

end Node

/-- The typed value of a text. What follows the value is a fault only if the value is read. -/
def readText {α : Type} (read : Reader α) (text : String) : Except Failure α := do
  let document := Document.ofText text
  let x ← read document.root
  if document.surplus then .error (.fault .surplus) else return x

/-- The typed value of a value in memory. -/
def readValue {α : Type} (read : Reader α) (value : Value) : Except Failure α :=
  read (Node.ofValue value)

end SyncPods.Json
