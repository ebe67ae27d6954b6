import SyncPods.Log.Setup

/-!
# A log is set up once

A process may try to set up its log any number of times, with any setting, and learns its labels in
between. Only the first attempt comes past the bridge, so the outcome of that one decides whether
the process has a log and whether its panics are told to it. Labels are kept from every attempt,
whatever its outcome.
-/

namespace SyncPods.Log

/-- An attempt to set up the log, with the labels offered along with it, or a label on its own. -/
inductive SetupStep where
  | setUp (setting : Setting) (dataPlane workspace : Option String)
  | dataPlane (name : String)
  | workspace (id : String)

namespace SetupStep

def setting? : SetupStep → Option Setting
  | .setUp setting _ _ => some setting
  | _ => none

/-- The data plane that a step offers. -/
def dataPlane? : SetupStep → Option String
  | .setUp _ name _ => name
  | .dataPlane name => some name
  | .workspace _ => none

/-- The workspace that a step offers. -/
def workspace? : SetupStep → Option String
  | .setUp _ _ id => id
  | .dataPlane _ => none
  | .workspace id => some id

end SetupStep

/-- A process after some steps, with the outcomes of its attempts in their order. -/
structure Attempts where
  state : State
  outcomes : List (Except SetupError Destination)

namespace Attempts

/-- A process in which nobody has set up a log. -/
def start : Attempts := ⟨State.initial, []⟩

def step (p : Attempts) : SetupStep → Attempts
  | .setUp setting dataPlane workspace =>
    let (outcome, state) := p.state.setUp setting dataPlane workspace
    ⟨state, p.outcomes ++ [outcome]⟩
  | .dataPlane name =>
    { p with state := { p.state with labels := p.state.labels.offerDataPlane name } }
  | .workspace id =>
    { p with state := { p.state with labels := p.state.labels.offerWorkspace id } }

def run (p : Attempts) (steps : List SetupStep) : Attempts := steps.foldl step p

end Attempts

/-- The settings of the attempts among some steps. -/
def attempted (steps : List SetupStep) : List Setting := steps.filterMap SetupStep.setting?

/-- What comes of the first attempt: a text that names no environment is noticed before files that
cannot be made. -/
def Setting.due (setting : Setting) : Except SetupError Destination :=
  match Environment.ofVariable setting.environment with
  | .error error => .error (.environment error)
  | .ok environment =>
    match State.directoryFault? environment setting with
    | some fault => .error (.noDirectory fault)
    | none => .ok (State.destinationFor environment)

/-- What comes of some attempts: all but the first are turned away at the bridge. -/
def dueOutcomes : List Setting → List (Except SetupError Destination)
  | [] => []
  | first :: later => first.due :: later.map fun _ => .error .bridgeTaken

/-- What holds of a process after some steps. -/
structure SetUpOnce (steps : List SetupStep) (p : Attempts) : Prop where
  atMostOne : p.outcomes.countP Except.isOk ≤ 1
  allAnswered : p.outcomes.length = (attempted steps).length
  first : p.outcomes.head? = (attempted steps).head?.map Setting.due
  firstPasses : p.outcomes.head? ≠ some (.error .bridgeTaken)
  laterTurnedAway : ∀ outcome ∈ p.outcomes.tail, outcome = .error .bridgeTaken
  unsupported : ∀ setting error, (attempted steps).head? = some setting →
    Environment.ofVariable setting.environment = .error error →
      p.outcomes.head? = some (.error (.environment error)) ∧ p.state.sink = none ∧
        p.state.hooks = 0
  hookedOnce : (∃ outcome ∈ p.outcomes, outcome.isOk = true) → p.state.hooks = 1
  neverHooked : (∀ outcome ∈ p.outcomes, outcome.isOk = false) → p.state.hooks = 0
  dataPlane : p.state.labels.dataPlane = steps.findSome? SetupStep.dataPlane?
  workspace : p.state.labels.workspace = steps.findSome? SetupStep.workspace?

/-! ## One attempt -/

section Attempt

variable {s : State} (setting : Setting) (dataPlane workspace : Option String)

theorem setUp_of_bridged (taken : s.bridged = true) :
    s.setUp setting dataPlane workspace =
      (.error .bridgeTaken, { s with labels := s.labels.offer dataPlane workspace }) := by
  rw [State.setUp, if_pos taken]

theorem Setting.due_ne_bridgeTaken : setting.due ≠ .error .bridgeTaken := by
  unfold Setting.due
  cases Environment.ofVariable setting.environment with
  | error error => simp
  | ok environment =>
      dsimp only
      cases State.directoryFault? environment setting <;> simp

/-- The first attempt comes past the bridge, and takes the place of the log if nothing is wrong. -/
theorem setUp_of_free (free : s.bridged = false) (vacant : s.sink = none) :
    ∃ sink, s.setUp setting dataPlane workspace =
      (setting.due,
        { s with
          labels := s.labels.offer dataPlane workspace
          bridged := true
          sink := sink
          hooks := s.hooks + setting.due.isOk.toNat }) ∧
      sink.isSome = setting.due.isOk := by
  have isFree : ¬s.bridged = true := by simp [free]
  rw [State.setUp, if_neg isFree]
  cases environment : Environment.ofVariable setting.environment with
  | error error =>
      refine ⟨none, ?_, ?_⟩
      · simp [State.openSink, Setting.due, environment, Except.isOk, Except.toBool, vacant]
      · simp [Setting.due, environment, Except.isOk, Except.toBool]
  | ok named =>
      cases fault : State.directoryFault? named setting with
      | some fault' =>
          refine ⟨none, ?_, ?_⟩
          · simp [State.openSink, Setting.due, environment, fault, Except.isOk, Except.toBool,
              vacant]
          · simp [Setting.due, environment, fault, Except.isOk, Except.toBool]
      | none =>
          refine ⟨some (State.sinkFor named (Filter.ofVariable setting.filter)), ?_, ?_⟩
          · simp [State.openSink, Setting.due, environment, fault, State.occupy, Except.isOk,
              Except.toBool, vacant]
          · simp [Setting.due, environment, fault, Except.isOk, Except.toBool]

end Attempt

/-! ## Some steps -/

theorem dueOutcomes_append (settings : List Setting) (setting : Setting) :
    dueOutcomes (settings ++ [setting]) =
      dueOutcomes settings ++
        [if settings.isEmpty then setting.due else .error .bridgeTaken] := by
  cases settings <;> simp [dueOutcomes]

theorem attempted_append (steps : List SetupStep) (step : SetupStep) :
    attempted (steps ++ [step]) = attempted steps ++ step.setting?.toList := by
  rw [attempted, List.filterMap_append, attempted]
  cases step <;> rfl

/-- The first values that some steps offer. -/
def offeredLabels (steps : List SetupStep) : Labels :=
  ⟨steps.findSome? SetupStep.dataPlane?, steps.findSome? SetupStep.workspace?⟩

theorem offeredLabels_append (steps : List SetupStep) (step : SetupStep) :
    offeredLabels (steps ++ [step]) =
      (offeredLabels steps).offer step.dataPlane? step.workspace? := by
  simp [offeredLabels, Labels.offer, List.findSome?_append]

/-- How far a process is after some steps. -/
structure Progress (steps : List SetupStep) (p : Attempts) : Prop where
  outcomes : p.outcomes = dueOutcomes (attempted steps)
  bridged : p.state.bridged = !(attempted steps).isEmpty
  sink : p.state.sink.isSome = p.outcomes.any Except.isOk
  hooks : p.state.hooks = p.outcomes.countP Except.isOk
  labels : p.state.labels = offeredLabels steps

theorem progress_start : Progress [] .start where
  outcomes := rfl
  bridged := rfl
  sink := rfl
  hooks := rfl
  labels := rfl

section Steps

variable {steps : List SetupStep} {p : Attempts}

/-- A label on its own leaves all else as it is. -/
theorem Progress.label {step : SetupStep} (progress : Progress steps p)
    (alone : step.setting? = none)
    (learned : p.step step =
      ⟨{ p.state with labels := p.state.labels.offer step.dataPlane? step.workspace? },
        p.outcomes⟩) :
    Progress (steps ++ [step]) (p.step step) := by
  have same : attempted (steps ++ [step]) = attempted steps := by
    rw [attempted_append, alone, Option.toList_none, List.append_nil]
  rw [learned]
  constructor
  case outcomes => rw [same, progress.outcomes]
  case bridged => rw [same, progress.bridged]
  case sink => exact progress.sink
  case hooks => exact progress.hooks
  case labels => rw [offeredLabels_append, progress.labels]

theorem Progress.setUp (progress : Progress steps p) (setting : Setting)
    (dataPlane workspace : Option String) :
    Progress (steps ++ [.setUp setting dataPlane workspace])
      (p.step (.setUp setting dataPlane workspace)) := by
  have more : attempted (steps ++ [.setUp setting dataPlane workspace]) =
      attempted steps ++ [setting] := attempted_append _ _
  have learned : (offeredLabels steps).offer dataPlane workspace =
      offeredLabels (steps ++ [.setUp setting dataPlane workspace]) := by
    rw [offeredLabels_append, SetupStep.dataPlane?, SetupStep.workspace?]
  have bridged := progress.bridged
  cases isFirst : (attempted steps).isEmpty with
  | false =>
      rw [isFirst] at bridged
      rw [Attempts.step, setUp_of_bridged setting dataPlane workspace bridged]
      constructor
      case outcomes => rw [more, dueOutcomes_append, isFirst, progress.outcomes]; rfl
      case bridged => simp [more, bridged]
      case sink => simp [progress.sink, Except.isOk, Except.toBool]
      case hooks => simp [progress.hooks, Except.isOk, Except.toBool]
      case labels => rw [← learned, progress.labels]
  | true =>
      rw [isFirst] at bridged
      have none' : p.outcomes = [] := by
        rw [progress.outcomes, List.isEmpty_iff.mp isFirst, dueOutcomes]
      have vacant : p.state.sink = none := by
        have closed := progress.sink
        rwa [none', List.any_nil, Option.isSome_eq_false_iff, Option.isNone_iff_eq_none] at closed
      obtain ⟨sink, taken, opened⟩ := setUp_of_free setting dataPlane workspace bridged vacant
      rw [Attempts.step, taken]
      constructor
      case outcomes => rw [more, dueOutcomes_append, isFirst, progress.outcomes]; rfl
      case bridged => simp [more]
      case sink => simp [none', opened]
      case hooks =>
        rw [progress.hooks, none']
        cases succeeds : setting.due.isOk <;> simp [succeeds]
      case labels => rw [← learned, progress.labels]

theorem Progress.step (progress : Progress steps p) (step : SetupStep) :
    Progress (steps ++ [step]) (p.step step) := by
  cases step with
  | setUp setting dataPlane workspace => exact progress.setUp setting dataPlane workspace
  | dataPlane name =>
      refine progress.label rfl ?_
      simp [Attempts.step, Labels.offer, Labels.offerDataPlane, SetupStep.dataPlane?,
        SetupStep.workspace?]
  | workspace id =>
      refine progress.label rfl ?_
      simp [Attempts.step, Labels.offer, Labels.offerWorkspace, SetupStep.dataPlane?,
        SetupStep.workspace?]

end Steps

theorem Progress.run {past : List SetupStep} {p : Attempts} (progress : Progress past p)
    (steps : List SetupStep) : Progress (past ++ steps) (p.run steps) := by
  induction steps generalizing past p with
  | nil => rwa [List.append_nil]
  | cons step steps ih =>
      rw [List.append_cons]
      exact ih (progress.step step)

/-! ## All the attempts of a process -/

section Outcomes

variable {steps : List SetupStep} {p : Attempts}

theorem mem_tail_dueOutcomes {settings : List Setting} {outcome : Except SetupError Destination}
    (later : outcome ∈ (dueOutcomes settings).tail) : outcome = .error .bridgeTaken := by
  cases settings with
  | nil => cases later
  | cons first settings => exact (List.mem_map.mp later).elim fun _ same => same.2.symm

theorem head?_dueOutcomes (settings : List Setting) :
    (dueOutcomes settings).head? = settings.head?.map Setting.due := by
  cases settings <;> rfl

theorem length_dueOutcomes (settings : List Setting) :
    (dueOutcomes settings).length = settings.length := by
  cases settings <;> simp [dueOutcomes]

/-- Only the outcome of the first attempt counts. -/
theorem countP_dueOutcomes (settings : List Setting) :
    (dueOutcomes settings).countP Except.isOk =
      (settings.head?.map fun first => first.due.isOk.toNat).getD 0 := by
  cases settings with
  | nil => rfl
  | cons first later =>
      have turnedAway : (later.map fun _ : Setting =>
          (.error .bridgeTaken : Except SetupError Destination)).countP Except.isOk = 0 := by
        simp [Except.isOk, Except.toBool]
      rw [dueOutcomes, List.countP_cons, turnedAway]
      cases succeeds : first.due.isOk <;> simp [succeeds]

theorem Progress.countP_le_one (progress : Progress steps p) :
    p.outcomes.countP Except.isOk ≤ 1 := by
  rw [progress.outcomes, countP_dueOutcomes]
  cases (attempted steps).head? with
  | none => exact Nat.zero_le 1
  | some first => exact Bool.toNat_le first.due.isOk

theorem Setting.due_of_unsupported {setting : Setting} {error : Environment.Unsupported}
    (unsupported : Environment.ofVariable setting.environment = .error error) :
    setting.due = .error (.environment error) := by
  rw [Setting.due, unsupported]

/-- Where the first attempt fails, nothing is in the place of the log. -/
theorem Progress.untouched (progress : Progress steps p)
    (failed : p.outcomes.countP Except.isOk = 0) : p.state.sink = none ∧ p.state.hooks = 0 := by
  refine ⟨?_, progress.hooks.trans failed⟩
  have closed : p.outcomes.any Except.isOk = false := by
    rw [List.any_eq_false]
    exact List.countP_eq_zero.mp failed
  have sink := progress.sink
  rwa [closed, Option.isSome_eq_false_iff, Option.isNone_iff_eq_none] at sink

end Outcomes

/-- However often a process tries to set up its log, with whatever settings, and whatever labels
are offered in between, it is set up at most once, by the first attempt, and panics are told to it
if and only if that one succeeds. -/
theorem run_sets_up_once (steps : List SetupStep) :
    SetUpOnce steps (Attempts.start.run steps) := by
  have progress := progress_start.run steps
  rw [List.nil_append] at progress
  have first : (Attempts.start.run steps).outcomes.head? =
      (attempted steps).head?.map Setting.due := by
    rw [progress.outcomes, head?_dueOutcomes]
  have counted := countP_dueOutcomes (attempted steps)
  rw [← progress.outcomes] at counted
  constructor
  case atMostOne => exact progress.countP_le_one
  case allAnswered => rw [progress.outcomes, length_dueOutcomes]
  case first => exact first
  case firstPasses =>
    rw [first]
    cases (attempted steps).head? with
    | none => exact nofun
    | some setting => exact fun taken => setting.due_ne_bridgeTaken (Option.some.inj taken)
  case laterTurnedAway =>
    rw [progress.outcomes]
    exact fun _ => mem_tail_dueOutcomes
  case unsupported =>
    intro setting error isFirst unsupported
    have failed := Setting.due_of_unsupported unsupported
    rw [isFirst, Option.map_some, failed] at counted
    rw [first, isFirst, Option.map_some, failed]
    exact ⟨rfl, progress.untouched counted⟩
  case hookedOnce =>
    intro someOk
    have positive := List.countP_pos_iff.mpr someOk
    have atMostOne := progress.countP_le_one
    rw [progress.hooks]
    omega
  case neverHooked =>
    intro noneOk
    have failed : (Attempts.start.run steps).outcomes.countP Except.isOk = 0 :=
      List.countP_eq_zero.mpr fun outcome listed => by simp [noneOk outcome listed]
    exact (progress.untouched failed).2
  case dataPlane => rw [progress.labels, offeredLabels]
  case workspace => rw [progress.labels, offeredLabels]

end SyncPods.Log
