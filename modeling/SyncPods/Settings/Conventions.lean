import SyncPods.Json.Value
import SyncPods.Shape

/-!
# Conventions between the containers of a pod

The directories and file names by which the containers of one pod find each other's files. A
connector's volume is mounted at the config directory in the connector, and at the source or
destination directory in the orchestrator.
-/

namespace SyncPods

open Json

structure Conventions where
  configDir : String
  sourceDir : String
  destinationDir : String
  stagingDir : String
  secretsDir : String
  jobOutputFile : String
  exitCodeFile : String
  terminationMarker : String
  connectorConfigFile : String
  catalogFile : String
  inputStateFile : String
  /-- The variable by which a connector's image names its own entrypoint. -/
  entrypointVariable : String
  /-- What the orchestrator runs. -/
  sidecarBinary : String
deriving DecidableEq, Repr

namespace Conventions

/-- The conventions that hold where nothing else is configured. -/
def builtIn : Conventions where
  configDir := "/config"
  sourceDir := "/source"
  destinationDir := "/dest"
  stagingDir := "/staging/files"
  secretsDir := "/secrets"
  jobOutputFile := "jobOutput.json"
  exitCodeFile := "exitCode.txt"
  terminationMarker := "TERMINATED"
  connectorConfigFile := "connectorConfig.json"
  catalogFile := "catalog.json"
  inputStateFile := "inputState.json"
  entrypointVariable := "CONNECTOR_ENTRYPOINT"
  sidecarBinary := "/app/bin/workload-sidecar"

instance : Inhabited Conventions := ⟨builtIn⟩

def configFile (c : Conventions) (name : String) : String := c.configDir ++ "/" ++ name

/-- A text with the built-in one in its place where it is absent. -/
def textField {N E : Type} [Source N E] (name : String) (value : Conventions → String) :
    Shape N E String :=
  Shape.withDefault name Source.string (value builtIn)

def read {N E : Type} [Source N E] : N → Except E Conventions :=
  Source.record "ScriptConventions" <|
    Conventions.mk <$> textField "config_dir" configDir <*> textField "source_dir" sourceDir <*>
      textField "destination_dir" destinationDir <*> textField "staging_dir" stagingDir <*>
      textField "secrets_dir" secretsDir <*> textField "job_output_filename" jobOutputFile <*>
      textField "exit_code_filename" exitCodeFile <*>
      textField "termination_marker_filename" terminationMarker <*>
      textField "connector_config_filename" connectorConfigFile <*>
      textField "catalog_filename" catalogFile <*>
      textField "input_state_filename" inputStateFile <*>
      textField "entrypoint_env_var" entrypointVariable <*>
      textField "sidecar_binary" sidecarBinary

def json (c : Conventions) : Value :=
  .object [("config_dir", .string c.configDir), ("source_dir", .string c.sourceDir),
    ("destination_dir", .string c.destinationDir), ("staging_dir", .string c.stagingDir),
    ("secrets_dir", .string c.secretsDir), ("job_output_filename", .string c.jobOutputFile),
    ("exit_code_filename", .string c.exitCodeFile),
    ("termination_marker_filename", .string c.terminationMarker),
    ("connector_config_filename", .string c.connectorConfigFile),
    ("catalog_filename", .string c.catalogFile),
    ("input_state_filename", .string c.inputStateFile),
    ("entrypoint_env_var", .string c.entrypointVariable),
    ("sidecar_binary", .string c.sidecarBinary)]

end Conventions

end SyncPods
