import SyncPods.Decimal.Shortest
import SyncPods.Dict

/-!
# JSON values

A JSON value keeps exact whole numbers and numbers in double precision apart. An object read from a
text has its members in the order of their names, each name once; one that is written keeps the
order of its making.
-/

namespace SyncPods.Json

/-- A number: whole within 64 bits, or in double precision. -/
inductive Number where
  | integer (value : Int)
  | float (value : Binary64)
deriving DecidableEq, Repr

inductive Value where
  | null
  | bool (value : Bool)
  | number (value : Number)
  | string (value : String)
  | array (items : List Value)
  | object (members : List (String × Value))
deriving Repr, Inhabited

def Number.text : Number → String
  | .integer n => toString n
  | .float x => x.scientific

namespace Value

/-- An object with its members in the order of names; of one name the last counts. -/
def ofMembers (members : List (String × Value)) : Value :=
  .object (members.foldl (fun sorted (name, value) => insertEntry name value sorted) [])

/-- An object of the members that are there, in the order given. -/
def record (members : List (String × Option Value)) : Value :=
  .object (members.filterMap fun (name, value) => value.map (name, ·))

def ofInt (n : Int) : Value := .number (.integer n)

def ofOption (s : Option String) : Value := (s.map .string).getD .null

def ofStrings (ss : List String) : Value := .array (ss.map .string)

/-- An object of texts by name. -/
def ofDict (d : Dict String) : Value := .object (d.entries.map fun (name, s) => (name, .string s))

/-- A member of an object; none for other values. -/
def get? (v : Value) (name : String) : Option Value :=
  match v with
  | .object members => valueOf? name members
  | _ => none

def asString? : Value → Option String
  | .string s => some s
  | _ => none

end Value

end SyncPods.Json
