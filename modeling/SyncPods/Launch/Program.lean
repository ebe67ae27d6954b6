import SyncPods.Launch.Basic
import SyncPods.Launch.CommandLine
import SyncPods.Launch.Report
import SyncPods.Launch.Tracking
import SyncPods.Layers.Load
import SyncPods.Log.Setup

/-!
# The launcher

The launcher as a function of what it finds around it: it loads and checks its settings, sets up its
log, and launches. It ends with a code, and leaves texts on its two outputs and lines in its log.
-/

namespace SyncPods.Launch

open Log

/-- The name of the launcher, which its log files bear. -/
def programName : String := "workload-launcher"

def programVersion : String := "0.1.0"

def programTarget : String := "workload_launcher"

/-- What the launcher finds around it. -/
structure Surroundings where
  arguments : List String
  vars : List (String × String)
  /-- The texts of the configuration files, by name. -/
  configuration : String → Option String
  file : String → Except FileError ByteArray
  cluster : ClusterAccess
  /-- Why there can be no directory for log files, if so. -/
  directoryFault : Option String
  /-- The time that log lines tell. -/
  time : String

inductive Failure where
  | load (error : Layers.LoadError)
  | invalid (error : Settings.Invalid)
  | setup (error : SetupError)
  | tracking (error : TrackingError)
  | launch (error : LaunchError)
deriving DecidableEq, Repr

/-- The messages of a failure and of what caused it, outermost first. -/
def Failure.chain : Failure → List String
  | load error => [error.message]
  | invalid error => [error.message]
  | setup error => error.chain
  | tracking error => [error.message]
  | launch error => error.chain

/-- Whether a failure is beyond what the launcher can report. -/
def Failure.isCrash : Failure → Bool
  | load error => error.isCrash
  | _ => false

/-- What the launcher has done so far. -/
structure Progress where
  log : State
  output : String
  console : String
  lines : List String

namespace Progress

def start : Progress := ⟨State.initial, "", "", []⟩

/-- With an event told to the log. -/
def tell (time : String) (p : Progress) (e : Event) : Progress :=
  { p with
    lines := p.lines ++ (p.log.fileLine? time [] e).toList
    console := p.console ++ (p.log.consoleText? time e).getD "" }

/-- With an effect of a launch. -/
def add (time : String) (p : Progress) : Effect → Progress
  | .log event => p.tell time event
  | .label workspace => { p with log.labels := p.log.labels.offerWorkspace workspace.text }
  | .print text => { p with output := p.output ++ text }
  | .submit _ _ => p

end Progress

/-- The steps of the launcher, which keep what was done even if one fails. -/
abbrev Work := ExceptT Failure (StateM Progress)

namespace Work

def tell (time : String) (e : Event) : Work Unit := modify (Progress.tell time · e)

/-- Loads the settings and checks them. -/
def settings (s : Surroundings) : Except Failure Settings := do
  let settings ← (Layers.load s.configuration s.vars).mapError .load
  match settings.invalid? with
  | some error => throw (.invalid error)
  | none => return settings

/-- What the log is set up with. -/
def setting (s : Surroundings) : Setting :=
  ⟨valueOf? Layers.environmentVariable s.vars, valueOf? "RUST_LOG" s.vars,
    s.directoryFault⟩

/-- Sets up the log, whose lines bear the data plane. -/
def setUpLog (s : Surroundings) (settings : Settings) : Work Unit := do
  let (outcome, log) := (← get).log.setUp (setting s) (some settings.dataPlane) none
  modify fun p => { p with log := log }
  let _ ← MonadExcept.ofExcept (outcome.mapError .setup)

def trackingEvent (settings : Settings) : Event :=
  .info programTarget (match settings.errorTracking with
    | some _ => "initializing sentry with supplied dsn"
    | none => "sentry not configured for launcher, skipping initialization") []

/-- Sets up the tracking of errors, if it is configured. -/
def setUpTracking (s : Surroundings) (settings : Settings) : Work Unit := do
  tell s.time (trackingEvent settings)
  match settings.errorTracking.bind trackingError? with
  | some error => throw (.tracking error)
  | none => pure ()

def failureEvent (error : LaunchError) : Event :=
  ⟨.error, programTarget, "an error occurred in the launcher: " ++ ": ".intercalate error.chain, []⟩

/-- Launches, and tells of the launch's failure. -/
def launch (s : Surroundings) (settings : Settings) (action : Action) (path : String)
    (kind : RunKind) : Work Unit := do
  let (outcome, effects) := run settings path (s.file path) s.cluster kind action
  modify fun p => effects.foldl (Progress.add s.time) p
  match outcome with
  | .ok _ => pure ()
  | .error error => do
    tell s.time (failureEvent error)
    throw (.launch error)

def all (s : Surroundings) (action : Action) (path : String) (kind : RunKind) : Work Unit := do
  let settings ← MonadExcept.ofExcept (settings s)
  setUpLog s settings
  setUpTracking s settings
  launch s settings action path kind

end Work

structure Outcome where
  code : Nat
  output : String
  /-- What it leaves on the output for errors. -/
  diagnostics : String
  /-- Whether it logs to files. -/
  logsToFiles : Bool
  /-- The lines that it leaves in its log file. -/
  lines : List String
deriving DecidableEq, Repr

def usage : String :=
  "Usage: " ++ programName ++ " <render|submit> --request <REQUEST> [--reset]\n"

def failureCode : Nat := 1

def usageCode : Nat := 2

def crashCode : Nat := 101

/-- The outcome with a code of what was done. -/
def Outcome.ofProgress (code : Nat) (report : String) (p : Progress) : Outcome where
  code := code
  output := p.output
  diagnostics := p.console ++ report
  logsToFiles := p.log.logsToFiles
  lines := p.lines

/-- The outcome of steps: a failure is reported, and a crash leaves only its message. -/
def Outcome.ofSteps : Except Failure Unit × Progress → Outcome
  | (.ok _, p) => .ofProgress 0 "" p
  | (.error failure, p) =>
    if failure.isCrash then .ofProgress crashCode ("\n".intercalate failure.chain ++ "\n") p
    else .ofProgress failureCode (Report.text failure.chain) p

/-- The outcome of a run that does nothing but tell. -/
def Outcome.told (code : Nat) (output diagnostics : String) : Outcome :=
  ⟨code, output, diagnostics, false, []⟩

def launcher (s : Surroundings) : Outcome :=
  match Invocation.ofArguments? s.arguments with
  | none => .told usageCode "" usage
  | some .help => .told 0 usage ""
  | some .version => .told 0 (programName ++ " " ++ programVersion ++ "\n") ""
  | some (.launch action path kind) =>
    .ofSteps ((Work.all s action path kind).run.run Progress.start)

end SyncPods.Launch
