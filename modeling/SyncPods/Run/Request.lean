import SyncPods.Manifest.Env
import SyncPods.Settings.Flags

/-!
# Requests for runs

A run moves data from a source to a destination, or resets the destination. A request holds what
differs from one run to the next.
-/

namespace SyncPods

open Json

/-- What a run does. -/
inductive RunKind where
  /-- Data goes from the source to the destination. -/
  | replication
  /-- The destination's state is cleared; there is no source. -/
  | reset
deriving DecidableEq, Repr

def RunKind.name : RunKind → String
  | .replication => "replication"
  | .reset => "reset"

/-- The part of a container in a run. -/
inductive Role where
  | init
  | orchestrator
  | source
  | destination
deriving DecidableEq, Repr

/-- The name that a container of the role goes by. -/
def Role.name : Role → String
  | .init => "init"
  | .orchestrator => "orchestrator"
  | .source => "source"
  | .destination => "destination"

/-- Wanted quantities of resources, as free texts. -/
structure ResourceSpec where
  cpuRequest : Option String
  cpuLimit : Option String
  memoryRequest : Option String
  memoryLimit : Option String
  storageRequest : Option String
  storageLimit : Option String
deriving DecidableEq, Repr, Inhabited

namespace ResourceSpec

def resourceField (name : String) (read : Reader String) : Shape Node Failure (Option String) :=
  Shape.optional name (Node.orNull read)

def read : Reader ResourceSpec :=
  Node.record "ResourceRequirementsSpec" <|
    ResourceSpec.mk <$> resourceField "cpu_request" Node.text <*>
      resourceField "cpu_limit" Node.text <*> resourceField "memory_request" Node.text <*>
      resourceField "memory_limit" Node.text <*>
      resourceField "ephemeral_storage_request" Node.text <*>
      resourceField "ephemeral_storage_limit" Node.text

/-- All six quantities, null where one is not set. -/
def json (s : ResourceSpec) : Value :=
  .object [("cpu_request", .ofOption s.cpuRequest), ("cpu_limit", .ofOption s.cpuLimit),
    ("memory_request", .ofOption s.memoryRequest), ("memory_limit", .ofOption s.memoryLimit),
    ("ephemeral_storage_request", .ofOption s.storageRequest),
    ("ephemeral_storage_limit", .ofOption s.storageLimit)]

end ResourceSpec

structure RunRequest where
  podName : String
  labels : Dict String
  annotations : Dict String
  nodeSelectors : Dict String
  orchestratorImage : String
  /-- A reset has no use for it. -/
  sourceImage : String
  destinationImage : String
  /-- For the orchestrator and for the init container. -/
  orchestratorResources : Option ResourceSpec
  sourceResources : Option ResourceSpec
  destinationResources : Option ResourceSpec
  /-- For the orchestrator and for the init container. -/
  orchestratorEnv : List EnvVar
  sourceEnv : List EnvVar
  destinationEnv : List EnvVar
  /-- Whether the connectors hand each other files. -/
  fileTransfer : Bool
  workspaceId : Uuid
deriving DecidableEq

namespace RunRequest

def read : Reader RunRequest :=
  let texts (name : String) : Shape Node Failure _ := Shape.withDefault name (Node.dict Node.text) ∅
  let resources (name : String) : Shape Node Failure _ :=
    Shape.withDefault name (Node.orNull ResourceSpec.read) none
  let env (name : String) : Shape Node Failure _ :=
    Shape.withDefault name (Node.list EnvVar.read) []
  Node.record "PodRequest" <|
    RunRequest.mk <$> Shape.required "pod_name" Node.text <*> texts "labels" <*>
      texts "annotations" <*> texts "node_selectors" <*>
      Shape.required "orchestrator_image" Node.text <*>
      Shape.withDefault "source_image" Node.text "" <*>
      Shape.required "destination_image" Node.text <*> resources "orchestrator_resources" <*>
      resources "source_resources" <*> resources "destination_resources" <*>
      env "orchestrator_env" <*> env "source_env" <*> env "destination_env" <*>
      Shape.withDefault "file_transfer" Node.flag false <*>
      Shape.required "workspace_id" Uuid.read

def json (r : RunRequest) : Value :=
  .record [("pod_name", some (.string r.podName)), ("labels", some (.ofDict r.labels)),
    ("annotations", some (.ofDict r.annotations)),
    ("node_selectors", some (.ofDict r.nodeSelectors)),
    ("orchestrator_image", some (.string r.orchestratorImage)),
    ("source_image", some (.string r.sourceImage)),
    ("destination_image", some (.string r.destinationImage)),
    ("orchestrator_resources", r.orchestratorResources.map ResourceSpec.json),
    ("source_resources", r.sourceResources.map ResourceSpec.json),
    ("destination_resources", r.destinationResources.map ResourceSpec.json),
    ("orchestrator_env", some (.array (r.orchestratorEnv.map EnvVar.json))),
    ("source_env", some (.array (r.sourceEnv.map EnvVar.json))),
    ("destination_env", some (.array (r.destinationEnv.map EnvVar.json))),
    ("file_transfer", some (.bool r.fileTransfer)),
    ("workspace_id", some (.string r.workspaceId.text))]

end RunRequest

end SyncPods
