import SyncPods.Launch.Error
import SyncPods.Run.Request

/-!
# The command line

The command line names an action, the file of the request, and whether the run is a reset. Options
are taken from left to right, and the first that asks for help ends the reading.
-/

namespace SyncPods.Launch

/-- A command line that makes sense. -/
inductive Invocation where
  | help
  | version
  | launch (action : Action) (path : String) (kind : RunKind)
deriving DecidableEq, Repr

namespace Invocation

def actionNames : List (String × Action) := [("render", .render), ("submit", .submit)]

/-- The options of an action that were given so far. -/
structure Given where
  path : Option String
  reset : Bool

/-- The name of the option with the file of the request. -/
def requestOption : String := "--request"

/-- What is behind the sign of an option that has its value with it. -/
def attached? (arg : String) : Option String :=
  let start := requestOption ++ "="
  if start.toList.isPrefixOf arg.toList then some (String.ofList (arg.toList.drop start.length))
  else none

/-- Whether a text may stand as a value behind its option: it is not empty and is no option. -/
def isValue (arg : String) : Bool :=
  arg = "-" || (arg ≠ "" && arg.toList.head? ≠ some '-')

/-- With the file of the request, which is given once. -/
def Given.withPath? (g : Given) (path : String) : Option Given :=
  if g.path.isNone && path ≠ "" then some { g with path := some path } else none

/-- Whether an argument asks for help, alone or with other letters behind it. -/
def asksHelp (arg : String) : Bool :=
  arg = "--help" || ['-', 'h'].isPrefixOf arg.toList

/-- Reads the options of an action. -/
def options? (action : Action) (given : Given) : List String → Option Invocation
  | [] => finish
  | ["--"] => finish
  | "--reset" :: rest =>
    if given.reset then none else options? action { given with reset := true } rest
  | "--request" :: value :: rest =>
    if isValue value then
      match given.withPath? value with
      | some given => options? action given rest
      | none => none
    else none
  | arg :: rest =>
    if asksHelp arg then some .help
    else
      match (attached? arg).bind given.withPath? with
      | some given => options? action given rest
      | none => none
where
  finish : Option Invocation :=
    given.path.map (.launch action · (if given.reset then .reset else .replication))

/-- What the arguments ask for; none if they are wrong. -/
def ofArguments? : List String → Option Invocation
  | [] => none
  | ["help"] => some .help
  | ["help", name] =>
    if name = "help" || (valueOf? name actionNames).isSome then some .help else none
  | "--version" :: _ => some .version
  | arg :: rest =>
    if asksHelp arg then some .help
    else if ['-', 'V'].isPrefixOf arg.toList then some .version
    else (valueOf? arg actionNames).bind fun action => options? action ⟨none, false⟩ rest

end Invocation

end SyncPods.Launch
