import SyncPods.Json.Node
import SyncPods.Json.Writer

/-!
# Injecting fields into log lines

A log line that is a JSON object gets members that it lacks. Any other line, and a line that lacks
none, stays as it is.
-/

namespace SyncPods.Log

open Json

/-- Members of an object with those of the fields that have a value and a name not yet there. -/
def addMissing (fields : List (String × Option String)) (members : List (String × Value)) :
    List (String × Value) :=
  fields.foldl (fun members (name, value) =>
    match value, valueOf? name members with
    | some text, none => insertEntry name (.string text) members
    | _, _ => members) members

/-- Whether some field has a value and a name not yet there. -/
def lacksSome (fields : List (String × Option String)) (members : List (String × Value)) : Bool :=
  fields.any fun (name, value) => value.isSome && (valueOf? name members).isNone

/-- The line with the fields that it lacks; none if it lacks none or is no object. A line break at
its end stays. -/
def inject (line : String) (fields : List (String × Option String)) : Option String :=
  match Value.ofText line with
  | .ok (.object members) =>
    if lacksSome fields members then
      let text := Value.compact (.object (addMissing fields members))
      some (if line.endsWith "\n" then text ++ "\n" else text)
    else none
  | _ => none

end SyncPods.Log
