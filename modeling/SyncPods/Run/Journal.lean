import SyncPods.Run.Assembly

/-!
# Journals of assemblies

The calls and events of an assembly in their order, for suppliers of which some may fail.
-/

namespace SyncPods

structure Journal where
  calls : List Call
  events : List Log.Event
deriving DecidableEq, Repr

namespace Journal

def empty : Journal := ⟨[], []⟩

/-- An assembly that keeps a journal, also when it fails. -/
abbrev Keeping := ExceptT BuildError (StateM Journal)

/-- The error of a call that fails for a reason; some calls cannot fail. -/
def failure? (reason : String) : Call → Option BuildError
  | .textFlag _ _ => some (.flag (.unavailable reason))
  | .boolFlag _ _ => some (.flag (.unavailable reason))
  | .container _ _ _ _ _ => some (.supplier reason)
  | _ => none

/-- An observer that writes everything down, after which a call may fail for a reason, which may
depend on the calls before it. -/
def observer (fails : List Call → Call → Option String) : Observer Keeping where
  call c := do
    let past := (← get).calls
    modify fun j => { j with calls := j.calls ++ [c] }
    match (fails past c).bind (failure? · c) with
    | some error => throw error
    | none => pure ()
  log e := modify fun j => { j with events := j.events ++ [e] }

end Journal

/-- The outcome of an assembly and its journal, for calls that always fail or never. -/
def Settings.traceBuild (settings : Settings) (fails : Call → Option String) (kind : RunKind)
    (request : RunRequest) : Except BuildError Pod × Journal :=
  (Assembly.pod (Journal.observer fun _ => fails) settings kind request).run.run Journal.empty

/-- The outcomes of assemblies that are made one after the other, and the journal that they keep
together. -/
def Settings.traceBuilds (settings : Settings) (fails : List Call → Call → Option String)
    (runs : List (RunKind × RunRequest)) : List (Except BuildError Pod) × Journal :=
  let build (run : RunKind × RunRequest) : StateM Journal (Except BuildError Pod) :=
    (Assembly.pod (Journal.observer fails) settings run.1 run.2).run
  (runs.mapM build).run Journal.empty

end SyncPods
