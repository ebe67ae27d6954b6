import SyncPods.Settings.Conventions

/-!
# Entrypoint scripts

The shell scripts that containers run. The orchestrator's leaves a marker in each connector's volume
when it ends, however it ends. A connector's starts the connector in the background, stops it once
the marker is there, and leaves its exit code in a file.
-/

namespace SyncPods

/-- A word in single quotes, in which a quote ends the quotes, stands escaped and opens them
again. -/
def singleQuoted (word : String) : String :=
  "'" ++ String.ofList (word.toList.flatMap fun c =>
    if c = '\'' then ['\'', '\\', '\'', '\''] else [c]) ++ "'"

namespace Script

/-- How many seconds pass between two looks for the marker. -/
def pollSeconds : Nat := 10

/-- The exit code of a connector whose image names no entrypoint. -/
def unsetEntrypointCode : Nat := 127

/-- Runs the sidecar. When it ends the marker is made in every one of the directories. -/
def sidecar (c : Conventions) (markerDirs : List String) : String :=
  if markerDirs.isEmpty then c.sidecarBinary ++ "\n"
  else
    let markers := markerDirs.map fun dir => singleQuoted (dir ++ "/" ++ c.terminationMarker)
    "trap \"touch " ++ " ".intercalate markers ++ "\" EXIT\n" ++ c.sidecarBinary ++ "\n"

/-- Ends a connector's script where the image names no entrypoint. -/
def entrypointGuard (entrypoint : String) : String :=
  "if [ -z \"$" ++ entrypoint ++ "\" ]; then\n" ++
  "  echo \"Entrypoint was not set! " ++ entrypoint ++ " must be set in the container.\"\n" ++
  "  exit " ++ toString unsetEntrypointCode ++ "\n" ++
  "else\n" ++
  "  echo \"Using " ++ entrypoint ++ ": $" ++ entrypoint ++ "\"\n" ++
  "fi\n" ++
  "\n"

/-- Starts a connector in the background, with its output in a file. -/
def launch (entrypoint operation arguments jobOutput : String) : String :=
  "# run the connector in the background and keep its pid\n" ++
  "(eval \"exec $" ++ entrypoint ++ " " ++ operation ++ " " ++ arguments ++ "\" > " ++
    jobOutput ++ " 2>&1) &\n" ++
  "CHILD_PID=$!\n" ++
  "\n"

/-- Stops a started connector once the marker is there. -/
def watchdog (marker : String) : String :=
  "# stop the connector once the termination marker shows up\n" ++
  "(while kill -0 $CHILD_PID 2>/dev/null; do if [ -f " ++ marker ++
    " ]; then kill $CHILD_PID; exit 0; fi; sleep " ++ toString pollSeconds ++ "; done) &\n" ++
  "\n"

/-- Waits for a started connector, leaves its exit code in a file and ends with that code. -/
def handOver (exitCode : String) : String :=
  "wait $CHILD_PID\n" ++
  "EXIT_CODE=$?\n" ++
  "\n" ++
  "# hand the exit code over to the sidecar\n" ++
  "echo $EXIT_CODE > " ++ exitCode ++ "\n" ++
  "\n" ++
  "exit $EXIT_CODE\n"

/-- Runs an operation of a connector with arguments. -/
def connector (c : Conventions) (operation arguments : String) : String :=
  entrypointGuard c.entrypointVariable ++
    launch c.entrypointVariable operation arguments (c.configFile c.jobOutputFile) ++
    watchdog (c.configFile c.terminationMarker) ++
    handOver (c.configFile c.exitCodeFile)

def configArgument (c : Conventions) : String :=
  "--config " ++ c.configFile c.connectorConfigFile

def catalogArgument (c : Conventions) : String :=
  "--catalog " ++ c.configFile c.catalogFile

def stateArgument (c : Conventions) : String :=
  "--state " ++ c.configFile c.inputStateFile

/-- A source reads, with the configuration, the catalog and the state of the last run. -/
def sourceRead (c : Conventions) : String :=
  connector c "read" (configArgument c ++ " " ++ catalogArgument c ++ " " ++ stateArgument c)

/-- A destination writes, with the configuration and the catalog. -/
def destinationWrite (c : Conventions) : String :=
  connector c "write" (configArgument c ++ " " ++ catalogArgument c)

def check (c : Conventions) : String := connector c "check" (configArgument c)

def discover (c : Conventions) : String := connector c "discover" (configArgument c)

def spec (c : Conventions) : String := connector c "spec" ""

end Script

end SyncPods
