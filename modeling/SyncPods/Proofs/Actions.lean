import SyncPods.Proofs.Checks
import SyncPods.Run.Assembly

/-!
# Assemblies as lists of actions

An assembly checks something, asks a supplier or tells of an event, one after the other, and has
its value in the end. `performed` is that value behind a list of such actions. Steps that are put
in a row put their lists in a row, whoever is told of them.
-/

namespace SyncPods.Assembly

/-- A call of a supplier, with the error that it ends with if the supplier does what it should. -/
structure Step where
  call : Call
  fault : Option BuildError

inductive Action where
  | check (fault : Option BuildError)
  | ask (step : Step)
  | log (event : Log.Event)

/-- A failure ends a computation. -/
class StopsAtFailure (m : Type → Type) [Monad m] [MonadExceptOf BuildError m] : Prop where
  throw_bind {α β : Type} (error : BuildError) (next : α → m β) :
    (throw error : m α) >>= next = throw error

instance : StopsAtFailure (Except BuildError) := ⟨fun _ _ => rfl⟩

instance {σ : Type} : StopsAtFailure (ExceptT BuildError (StateM σ)) := ⟨fun _ _ => rfl⟩

def Action.fault : Action → Option BuildError
  | check fault => fault
  | ask step => step.fault
  | log _ => none

section Perform

variable {m : Type → Type} [Monad m] [MonadExceptOf BuildError m] {α β : Type}

def fail (fault : Option BuildError) : m Unit :=
  match fault with
  | some error => throw error
  | none => pure ()

def perform (observer : Observer m) : Action → m Unit
  | .check fault => fail fault
  | .ask step => do
    observer.call step.call
    fail step.fault
  | .log event => observer.log event

/-- The value, once all actions are performed. -/
def performed (observer : Observer m) (actions : List Action) (value : α) : m α := do
  forM actions (perform observer)
  return value

variable [LawfulMonad m] (observer : Observer m)

theorem performed_bind (actions : List Action) (value : α) (later : α → List Action)
    (next : α → β) :
    (performed observer actions value >>= fun x => performed observer (later x) (next x)) =
      performed observer (actions ++ later value) (next value) := by
  simp [performed]

theorem performed_bind_pure (actions : List Action) (value : α) (next : α → β) :
    (performed observer actions value >>= fun x => pure (next x)) =
      performed observer actions (next value) := by
  simp [performed]

/-- A call and the check of its answer are one step. -/
theorem call_bind_performed_check (call : Call) (fault : Option BuildError)
    (later : List Action) (value : α) :
    (observer.call call >>= fun _ => performed observer (.check fault :: later) value) =
      performed observer (.ask ⟨call, fault⟩ :: later) value := by
  simp [performed, perform]

theorem call_bind_pure (call : Call) (value : α) :
    (observer.call call >>= fun _ => pure value) =
      performed observer [.ask ⟨call, none⟩] value := by
  simp [performed, perform, fail]

theorem ofExcept_guarded [StopsAtFailure m] (fault : Option BuildError) (value : α) :
    MonadExcept.ofExcept (guarded fault value) = performed observer [.check fault] value := by
  cases fault with
  | none => simp [performed, perform, fail, MonadExcept.ofExcept]
  | some error =>
      have stops : (throw error >>= fun _ : Unit => (pure value : m α)) = throw error :=
        StopsAtFailure.throw_bind error _
      simpa [performed, perform, fail, MonadExcept.ofExcept] using stops.symm

end Perform

/-- With nobody to listen only the faults of the actions count. -/
theorem performed_silent {α : Type} (actions : List Action) (value : α) :
    performed (m := Except BuildError) Observer.silent actions value =
      guarded (firstFault (actions.map Action.fault)) value := by
  induction actions with
  | nil => rfl
  | cons action later ih =>
      have first : perform Observer.silent action = guarded action.fault () := by
        cases action with
        | check fault => cases fault <;> rfl
        | ask step =>
            obtain ⟨call, fault⟩ := step
            cases fault <;> rfl
        | log event => rfl
      have split : performed (m := Except BuildError) Observer.silent (action :: later) value =
          (perform Observer.silent action >>= fun _ => performed Observer.silent later value) := by
        simp [performed]
      rw [split, first, ih, List.map_cons, firstFault_cons]
      exact guarded_bind_guarded action.fault (firstFault (later.map Action.fault)) () fun _ => value

end SyncPods.Assembly
