import SyncPods.Environment
import SyncPods.Log.Filter
import SyncPods.Log.Labels
import SyncPods.Log.Line

/-!
# Setting up the log of a process

A process has one place for those who bring the records of its libraries to its log, and one for the
log itself. Each is taken once: whoever comes later is turned away. The deployed environments log to
files, and development logs to the console.
-/

namespace SyncPods.Log

/-- Where the events of a process go. -/
inductive Sink where
  /-- The log of somebody else, in which events are lost. -/
  | foreign
  | console (filter : Filter)
  | files (filter : Filter)
deriving DecidableEq, Repr

structure State where
  labels : Labels
  /-- Whether the records of the libraries are brought to the log. -/
  bridged : Bool
  sink : Option Sink
  /-- How many times the report of panics was extended by one to the log. -/
  hooks : Nat
  /-- Whether a test has asked for a log, or for none. -/
  asked : Bool
deriving DecidableEq, Repr

/-- What the log is set up with. -/
structure Setting where
  /-- The text that names the environment. -/
  environment : Option String
  /-- The text of the filter. -/
  filter : Option String
  /-- Why the directory of the log files cannot be made, if so. -/
  directoryFault : Option String
deriving DecidableEq, Repr

inductive SetupError where
  | noDirectory (fault : String)
  | bridgeTaken
  | sinkTaken
  | environment (error : Environment.Unsupported)
deriving DecidableEq, Repr

namespace SetupError

/-- What comes in the way of setting up. -/
def fault : SetupError → String
  | noDirectory fault => s!"failed to create log directory: {fault}"
  | bridgeTaken =>
    "attempted to set a logger after the logging system was already initialized"
  | sinkTaken => "a global default trace dispatcher has already been set"
  | environment error => error.message

def message : SetupError → String
  | noDirectory fault => "failed to build rolling file appender: " ++ (noDirectory fault).fault
  | bridgeTaken => "failed to init log tracer: " ++ bridgeTaken.fault
  | sinkTaken => "failed to set global default subscriber: " ++ sinkTaken.fault
  | environment error => "an io error occurred: " ++ (environment error).fault

/-- The messages of an error and of what caused it, outermost first. -/
def chain : SetupError → List String
  | noDirectory fault => [(noDirectory fault).message, (noDirectory fault).fault, fault]
  | error => [error.message, error.fault]

end SetupError

/-- Where the log that was set up goes. -/
inductive Destination where
  | files
  | console
deriving DecidableEq, Repr

namespace State

def initial : State := ⟨Labels.empty, false, none, 0, false⟩

/-- Whether the events of the process go to files. -/
def logsToFiles (s : State) : Bool :=
  match s.sink with
  | some (.files _) => true
  | _ => false

/-- Takes the place of the log, unless it is taken; whether it was free. -/
def occupy (s : State) (sink : Sink) : Bool × State :=
  match s.sink with
  | none => (true, { s with sink := some sink })
  | some _ => (false, s)

/-- The sink of a log for an environment. -/
def sinkFor (environment : Environment) (filter : Filter) : Sink :=
  if environment.isDeployed then .files filter else .console filter

def destinationFor (environment : Environment) : Destination :=
  if environment.isDeployed then .files else .console

/-- What keeps the files of an environment's log from being made. -/
def directoryFault? (environment : Environment) (setting : Setting) : Option String :=
  if environment.isDeployed then setting.directoryFault else none

/-- Sets up the log behind the bridge. -/
def openSink (s : State) (setting : Setting) : Except SetupError Destination × State :=
  match Environment.ofVariable setting.environment with
  | .error error => (.error (.environment error), s)
  | .ok environment =>
    match directoryFault? environment setting with
    | some fault => (.error (.noDirectory fault), s)
    | none =>
      match s.occupy (sinkFor environment (Filter.ofVariable setting.filter)) with
      | (false, s) => (.error .sinkTaken, s)
      | (true, s) => (.ok (destinationFor environment), { s with hooks := s.hooks + 1 })

/-- Sets up the log of a process. The labels offered with it count even if it fails. -/
def setUp (s : State) (setting : Setting) (dataPlane workspace : Option String) :
    Except SetupError Destination × State :=
  let s := { s with labels := s.labels.offer dataPlane workspace }
  if s.bridged then (.error .bridgeTaken, s)
  else openSink { s with bridged := true } setting

/-- Sets up the log of a test on the console, if one is wanted. Only the first time that it is asked
for counts. -/
def setUpForTest (s : State) (wanted : Bool) (setting : Setting) :
    Option (Except SetupError Destination) × State :=
  if s.asked then (none, s)
  else
    let s := { s with asked := true }
    if wanted then
      let development := { setting with environment := some Environment.dev.name }
      let (outcome, s) := s.setUp development none none
      (some outcome, s)
    else (none, s)

/-- The line that an event leaves in the log files. Spans are filtered like events. -/
def fileLine? (s : State) (time : String) (spans : List Span) (e : Event) : Option String :=
  match s.sink with
  | some (.files filter) =>
    if filter.passes e.target e.level then
      let shown := spans.filter fun span => filter.passes span.target span.level
      some (s.labels.lineWith (e.line time shown))
    else none
  | _ => none

/-- The text that an event leaves on the console. -/
def consoleText? (s : State) (time : String) (e : Event) : Option String :=
  match s.sink with
  | some (.console filter) =>
    if filter.passes e.target e.level then some (Console.text time e) else none
  | _ => none

end State

end SyncPods.Log
