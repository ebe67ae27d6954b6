import SyncPods.Launch.Error
import SyncPods.Run.Journal

/-!
# Launches

A launch reads the request for a run, assembles the run's pod, and prints or submits it. What it
does on its way is told as a list of effects, which goes on up to the first error.
-/

namespace SyncPods.Launch

open Log

inductive Effect where
  | log (event : Event)
  /-- From here on the workspace labels the log. -/
  | label (workspace : Uuid)
  | print (text : String)
  /-- Hands a pod over to a namespace of the cluster. -/
  | submit (namespaceName : String) (pod : Pod)
deriving DecidableEq

/-- A cluster, as what it replies to requests. There may be no way to it. -/
abbrev ClusterAccess := Except Cluster.RequestError (Cluster.CreateRequest → Cluster.Reply)

/-- A cluster that no request gets to. -/
def ClusterAccess.unreachable : ClusterAccess := .ok fun _ =>
  .noAnswer "client error (Connect)" ["tcp connect error", "Network is unreachable (os error 101)"]

/-- The steps of a launch, which leave their effects even if one fails. -/
abbrev Steps := ExceptT LaunchError (StateM (List Effect))

def effect (e : Effect) : Steps Unit := modify (· ++ [e])

def target : String := "workload_launcher::core"

def startEvent (kind : RunKind) : Event :=
  .info target "starting workload launcher" [("kind", .text kind.name)]

/-- A text that may be absent, as the log shows it. -/
def shownOption : Option String → String
  | some s => "Some(" ++ Text.quoted s ++ ")"
  | none => "None"

def clusterEvent (settings : Settings) : Event :=
  let c := settings.cluster
  ⟨.debug, target, "kubernetes config", [("data_plane", .text settings.dataPlane),
    ("namespace", .text c.namespaceName), ("init_image", .text c.initImage),
    ("service_account", .text (shownOption c.serviceAccount)),
    ("image_pull_secrets", .count c.imagePullSecrets.length),
    ("tolerations", .count c.tolerations.length)]⟩

def conventionsEvent (c : Conventions) : Event :=
  ⟨.debug, target, "script conventions", [("config_dir", .text c.configDir),
    ("source_dir", .text c.sourceDir), ("destination_dir", .text c.destinationDir),
    ("entrypoint_env_var", .text c.entrypointVariable),
    ("sidecar_binary", .text c.sidecarBinary)]⟩

def fileText (file : Except FileError ByteArray) : Except FileError String := do
  match String.fromUTF8? (← file) with
  | some text => return text
  | none => throw .notText

def readRequest (path : String) (file : Except FileError ByteArray) :
    Except LaunchError RunRequest := do
  let text ← (fileText file).mapError (.unreadable path)
  (Json.readText RunRequest.read text).mapError (.unparsable path)

/-- Assembles the pod of a run, with the events of the assembly. -/
def build (settings : Settings) (kind : RunKind) (request : RunRequest) : Steps Pod := do
  let (outcome, journal) := settings.traceBuild (fun _ => none) kind request
  journal.events.forM fun event => effect (.log event)
  MonadExcept.ofExcept (outcome.mapError (.build kind request.podName))

/-- Submits a pod, with the events of the exchange with the cluster. -/
def submit (cluster : ClusterAccess) (namespaceName : String) (pod : Pod) : Steps Unit := do
  let reply ← MonadExcept.ofExcept (cluster.mapError (.submission ∘ .request))
  effect (.submit namespaceName pod)
  let exchange (request : Cluster.CreateRequest) : Steps Cluster.Reply := do
    (reply request).events.forM fun event => effect (.log event)
    return reply request
  match ← Cluster.submit exchange namespaceName pod with
  | .ok name => (Cluster.submittedEvents namespaceName name).forM fun event => effect (.log event)
  | .error error => throw (.submission error)

/-- The steps of a launch for the request in the file at a path. -/
def steps (settings : Settings) (path : String) (file : Except FileError ByteArray)
    (cluster : ClusterAccess) (kind : RunKind) (action : Action) : Steps Unit := do
  effect (.log (startEvent kind))
  effect (.log (clusterEvent settings))
  effect (.log (conventionsEvent settings.conventions))
  let request ← MonadExcept.ofExcept (readRequest path file)
  effect (.label request.workspaceId)
  let pod ← build settings kind request
  match action with
  | .render => effect (.print (pod.manifest ++ "\n"))
  | .submit => submit cluster settings.cluster.namespaceName pod

/-- The outcome of a launch and its effects in order. -/
def run (settings : Settings) (path : String) (file : Except FileError ByteArray)
    (cluster : ClusterAccess) (kind : RunKind) (action : Action) :
    Except LaunchError Unit × List Effect :=
  (steps settings path file cluster kind action).run.run []

end SyncPods.Launch
