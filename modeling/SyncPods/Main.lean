import SyncPods.Launch.Program
import SyncPods.Log.Moment
import Std.Time.DateTime.Timestamp

/-!
# The command of the launcher

Finds what the launcher needs around it, runs it, and leaves what it says where it belongs. There is
no way from here to a cluster.
-/

namespace SyncPods.Main

open Launch

def fileError : IO.Error → FileError
  | .noFileOrDirectory _ _ _ => .missing
  | .inappropriateType _ _ _ => .directory
  | error => .other (toString error)

def readFile (path : String) : IO (Except FileError ByteArray) := do
  match ← (IO.FS.readBinFile path).toBaseIO with
  | .ok bytes => return .ok bytes
  | .error error => return .error (fileError error)

/-- The variables among some bytes, each with a zero byte behind it. -/
def variablesOf (bytes : ByteArray) : List (String × String) :=
  let texts := ((String.fromUTF8? bytes).getD "").splitOn "\x00"
  texts.filterMap fun text =>
    match text.splitOn "=" with
    | name :: first :: rest => some (name, "=".intercalate (first :: rest))
    | _ => none

def readVariables : IO (List (String × String)) := do
  return variablesOf ((← readFile "/proc/self/environ").toOption.getD ByteArray.empty)

/-- The texts of the configuration files there are. -/
def readConfiguration : IO (List (String × String)) := do
  let mut found := []
  for name in Layers.candidateFiles do
    let file ← readFile (Layers.Origin.directory ++ "/" ++ name)
    if let some text := file.toOption.bind String.fromUTF8? then
      found := (name, text) :: found
  return found

/-- The file of the request that the arguments name. -/
def readRequestFile (arguments : List String) : IO (Except FileError ByteArray) :=
  match Invocation.ofArguments? arguments with
  | some (.launch _ path _) => readFile path
  | _ => return .error .missing

def now : IO Log.Moment := do
  let time ← Std.Time.Timestamp.now
  let nanoseconds := time.toNanosecondsSinceUnixEpoch.val.toNat
  return ⟨nanoseconds / Nat.pow 10 9, nanoseconds % Nat.pow 10 9⟩

def logDirectory : String := "logs"

def directoryFault : IO.Error → String
  | .alreadyExists _ _ _ => "File exists (os error 17)"
  | error => toString error

/-- Makes the directory of the log files; why it cannot be made, if so. -/
def makeLogDirectory : IO (Option String) := do
  match ← (IO.FS.createDirAll logDirectory).toBaseIO with
  | .ok _ => return none
  | .error error => return some (directoryFault error)

/-- Runs the launcher. It is asked first whether it logs to files, since their directory has to be
there before. -/
def launch (surroundings : Surroundings) : IO Outcome := do
  let outcome := launcher surroundings
  if outcome.logsToFiles then
    match ← makeLogDirectory with
    | none => return outcome
    | some fault => return launcher { surroundings with directoryFault := some fault }
  else return outcome

def writeLog (day : Log.Day) (lines : List String) : IO Unit := do
  let path := logDirectory ++ "/" ++ Log.fileName programName day.text
  let handle ← IO.FS.Handle.mk path .append
  lines.forM fun line => handle.putStr line

end SyncPods.Main

open SyncPods SyncPods.Launch SyncPods.Main in
def main (arguments : List String) : IO UInt32 := do
  let moment ← now
  let configuration ← readConfiguration
  let file ← readRequestFile arguments
  let outcome ← launch {
    arguments
    vars := ← readVariables
    configuration := fun name => valueOf? name configuration
    file := fun _ => file
    cluster := ClusterAccess.unreachable
    directoryFault := none
    time := moment.text }
  if outcome.logsToFiles then writeLog moment.day outcome.lines
  IO.print outcome.output
  IO.eprint outcome.diagnostics
  return outcome.code.toUInt32
