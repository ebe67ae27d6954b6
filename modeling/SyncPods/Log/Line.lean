import SyncPods.Json.Writer
import SyncPods.Log.Event

/-!
# Log lines

An event as one line of JSON, with the time it happened at and the spans it happened in, and as text
for a console.
-/

namespace SyncPods.Log

open Json

/-- A part of the work that events happen in. -/
structure Span where
  level : Level
  target : String
  name : String
  fields : List (String × FieldValue)
deriving DecidableEq, Repr

def fieldMembers (fields : List (String × FieldValue)) : List (String × Value) :=
  fields.map fun (name, value) => (name, value.json)

/-- The fields of a span, and its name. -/
def Span.json (s : Span) : Value := .object (fieldMembers s.fields ++ [("name", .string s.name)])

namespace Event

/-- The object of an event that happened at a time in some spans, the innermost last. -/
def json (time : String) (spans : List Span) (e : Event) : Value :=
  .record [("timestamp", some (.string time)), ("level", some (.string e.level.name)),
    ("fields", some (.object (fieldMembers e.allFields))), ("span", spans.getLast?.map Span.json),
    ("spans", if spans.isEmpty then none else some (.array (spans.map Span.json)))]

def line (time : String) (spans : List Span) (e : Event) : String :=
  (e.json time spans).compact ++ "\n"

end Event

namespace Console

/-- A text after the code of its style. -/
def styled (style text : String) : String := "\x1b[" ++ style ++ "m" ++ text

/-- The end of what is styled. -/
def plain : String := "\x1b[0m"

/-- The colour of a level. -/
def colour : Level → String
  | .trace => "35"
  | .debug => "34"
  | .info => "32"
  | .warn => "33"
  | .error => "31"

/-- A field behind the message. -/
def fieldText (style : String) (name : String) (value : FieldValue) : String :=
  ", " ++ styled ("1;" ++ style) name ++ plain ++ styled style (": " ++ value.shown)

/-- The text of an event for a console, with colours. -/
def text (time : String) (e : Event) : String :=
  let style := colour e.level
  let name := String.ofList (List.replicate (5 - e.level.name.length) ' ') ++ e.level.name
  "  " ++ styled "2" time ++ plain ++ " " ++ styled style name ++ plain ++ " " ++
    styled ("1;" ++ style) e.target ++ plain ++ styled style ": " ++ styled style e.message ++
    String.join (e.fields.map fun (name, value) => fieldText style name value) ++ plain ++ "\n\n"

end Console

end SyncPods.Log
