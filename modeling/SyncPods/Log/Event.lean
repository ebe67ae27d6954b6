import SyncPods.Json.Value

/-!
# Log events
-/

namespace SyncPods.Log

/-- How much an event matters, from the least on. -/
inductive Level where
  | trace
  | debug
  | info
  | warn
  | error
deriving DecidableEq, Repr

namespace Level

def rank : Level → Nat
  | .trace => 0
  | .debug => 1
  | .info => 2
  | .warn => 3
  | .error => 4

def name : Level → String
  | .trace => "TRACE"
  | .debug => "DEBUG"
  | .info => "INFO"
  | .warn => "WARN"
  | .error => "ERROR"

end Level

inductive FieldValue where
  | text (value : String)
  | count (value : Nat)
deriving DecidableEq, Repr

namespace FieldValue

def json : FieldValue → Json.Value
  | .text s => .string s
  | .count n => .ofInt n

def shown : FieldValue → String
  | .text s => s
  | .count n => toString n

end FieldValue

/-- An event that some part of a program tells of. -/
structure Event where
  level : Level
  /-- The part of the program that the event comes from. -/
  target : String
  message : String
  fields : List (String × FieldValue)
deriving DecidableEq, Repr

namespace Event

def info (target message : String) (fields : List (String × FieldValue)) : Event :=
  ⟨.info, target, message, fields⟩

def allFields (e : Event) : List (String × FieldValue) :=
  ("message", .text e.message) :: e.fields

end Event

end SyncPods.Log
