import SyncPods.Log.Event
import SyncPods.Run.Flags
import SyncPods.Run.Resources
import SyncPods.Run.Script
import SyncPods.Run.Security
import SyncPods.Run.Volumes
import SyncPods.Settings.Basic

/-!
# Assembling pods

A pod is assembled in steps, each of which asks one supplier: of flags, volumes, containers or
security contexts. An observer is told of every call before it is answered, and may refuse it. The
first error ends the assembly.
-/

namespace SyncPods

inductive Call where
  | replicationVolumes (fileTransfer : Bool)
  | resetVolumes
  | textFlag (flag : TextFlag) (context : FlagContext)
  | boolFlag (flag : BoolFlag) (context : FlagContext)
  /-- The container of a role, with its image or, for the init container, its workspace. -/
  | container (role : Role) (resources : Option ResourceSpec) (mounts : List VolumeMount)
    (env : List EnvVar) (subject : String)
  | containerSecurity
  | podSecurity
deriving DecidableEq, Repr

/-- Who is told of the calls and of the events of an assembly. -/
structure Observer (m : Type → Type) where
  call : Call → m Unit
  log : Log.Event → m Unit

def Observer.silent {m : Type → Type} [Monad m] : Observer m := ⟨fun _ => pure (), fun _ => pure ()⟩

/-- The variable by which the init container learns its workspace. -/
def workspaceVariable : String := "WORKSPACE_ID"

namespace Assembly

variable {m : Type → Type} [Monad m] [MonadExceptOf BuildError m]

/-- An image has to be given. -/
def requireImage (role : Role) (image : String) : m Unit :=
  if Text.isBlankText image then throw (.missingImage role) else pure ()

/-- A container of the role, with the security context of all containers. -/
def container (observer : Observer m) (settings : Settings) (role : Role) (image : String)
    (resources : Option ResourceSpec) (mounts : List VolumeMount) (env : List EnvVar)
    (script : Option String) : m Container := do
  let requirements ← MonadExcept.ofExcept (resourceRequirements role resources)
  observer.call .containerSecurity
  return {
    command := script.map fun script => ["sh", "-c", script]
    env
    image
    imagePullPolicy := settings.cluster.imagePullPolicy
    name := role.name
    resources := requirements
    securityContext := settings.cluster.runAs.containerContext
    volumeMounts := mounts }

/-- The init container. It runs what its image says, and learns its workspace. -/
def initContainer (observer : Observer m) (settings : Settings) (resources : Option ResourceSpec)
    (mounts : List VolumeMount) (env : List EnvVar) (workspace : Uuid) : m Container := do
  observer.call (.container .init resources mounts env workspace.text)
  container observer settings .init settings.cluster.initImage resources mounts
    (env ++ [EnvVar.plain workspaceVariable workspace.text]) none

/-- The directories in which an orchestrator with the mounts leaves the marker: those of the
connectors' volumes. -/
def markerDirs (mounts : List VolumeMount) : List String :=
  (mounts.filter fun m => m.name == sourceVolume || m.name == destinationVolume).map (·.mountPath)

/-- The orchestrator, which runs the sidecar. -/
def orchestrator (observer : Observer m) (settings : Settings) (resources : Option ResourceSpec)
    (mounts : List VolumeMount) (env : List EnvVar) (image : String) : m Container := do
  observer.call (.container .orchestrator resources mounts env image)
  container observer settings .orchestrator image resources mounts env
    (some (Script.sidecar settings.conventions (markerDirs mounts)))

def source (observer : Observer m) (settings : Settings) (resources : Option ResourceSpec)
    (mounts : List VolumeMount) (env : List EnvVar) (image : String) : m Container := do
  observer.call (.container .source resources mounts env image)
  container observer settings .source image resources mounts env
    (some (Script.sourceRead settings.conventions))

def destination (observer : Observer m) (settings : Settings) (resources : Option ResourceSpec)
    (mounts : List VolumeMount) (env : List EnvVar) (image : String) : m Container := do
  observer.call (.container .destination resources mounts env image)
  container observer settings .destination image resources mounts env
    (some (Script.destinationWrite settings.conventions))

/-- The container of a role. The init container is for a workspace, the others have an image. -/
def ofRole (observer : Observer m) (settings : Settings) (role : Role)
    (resources : Option ResourceSpec) (mounts : List VolumeMount) (env : List EnvVar)
    (image : String) (workspace : Uuid) : m Container :=
  match role with
  | .init => initContainer observer settings resources mounts env workspace
  | .orchestrator => orchestrator observer settings resources mounts env image
  | .source => source observer settings resources mounts env image
  | .destination => destination observer settings resources mounts env image

def textFlag (observer : Observer m) (settings : Settings) (flag : TextFlag)
    (context : FlagContext) : m String := do
  observer.call (.textFlag flag context)
  MonadExcept.ofExcept ((settings.flags.evaluateText flag context).mapError BuildError.flag)

def boolFlag (observer : Observer m) (settings : Settings) (flag : BoolFlag)
    (context : FlagContext) : m Bool := do
  observer.call (.boolFlag flag context)
  MonadExcept.ofExcept ((settings.flags.evaluateBool flag context).mapError BuildError.flag)

/-- The volumes of a run of the kind. -/
def volumeSet (observer : Observer m) (settings : Settings) (kind : RunKind)
    (fileTransfer : Bool) : m VolumeSet :=
  match kind with
  | .replication => do
    observer.call (.replicationVolumes fileTransfer)
    return VolumeSet.replication settings.conventions settings.cluster.connectorSecret fileTransfer
  | .reset => do
    observer.call .resetVolumes
    return VolumeSet.reset settings.conventions settings.cluster.connectorSecret

/-- The images that a run of the kind cannot do without. -/
def requireImages (kind : RunKind) (request : RunRequest) : m Unit := do
  requireImage .orchestrator request.orchestratorImage
  match kind with
  | .replication => requireImage .source request.sourceImage
  | .reset => pure ()
  requireImage .destination request.destinationImage

/-- The main containers: the orchestrator, the source if there is one, and the destination. -/
def mainContainers (observer : Observer m) (settings : Settings) (kind : RunKind)
    (request : RunRequest) (volumes : VolumeSet) : m (List Container) := do
  let first ← orchestrator observer settings request.orchestratorResources
    volumes.orchestratorMounts request.orchestratorEnv request.orchestratorImage
  let sources ←
    match kind with
    | .replication => do
      let c ← source observer settings request.sourceResources volumes.sourceMounts
        request.sourceEnv request.sourceImage
      pure [c]
    | .reset => pure []
  let last ← destination observer settings request.destinationResources
    volumes.destinationMounts request.destinationEnv request.destinationImage
  return first :: sources ++ [last]

/-- The configured service account, unless the workspace has it removed. -/
def serviceAccount (observer : Observer m) (settings : Settings) (request : RunRequest) :
    m (Option String) := do
  let remove ← boolFlag observer settings removeAccountFlag (.workspace request.workspaceId)
  return if remove then none else settings.cluster.serviceAccount

def assembledEvent (kind : RunKind) (request : RunRequest) (containers : List Container)
    (scheduler : String) : Log.Event :=
  .info "workload_pods::pod" "assembled pod" [("pod_name", .text request.podName),
    ("kind", .text kind.name), ("containers", .text (",".intercalate (containers.map (·.name)))),
    ("scheduler_name", .text scheduler)]

/-- Assembles the pod of a run. -/
def pod (observer : Observer m) (settings : Settings) (kind : RunKind) (request : RunRequest) :
    m Pod := do
  requireImages kind request
  let volumes ← volumeSet observer settings kind request.fileTransfer
  let scheduler ← textFlag observer settings schedulerFlag FlagContext.anonymous
  let first ← initContainer observer settings request.orchestratorResources
    volumes.orchestratorMounts request.orchestratorEnv request.workspaceId
  let containers ← mainContainers observer settings kind request volumes
  let account ← serviceAccount observer settings request
  observer.log (assembledEvent kind request containers scheduler)
  observer.call .podSecurity
  return {
    metadata := ⟨some request.podName, some request.labels, some request.annotations⟩
    spec := some {
      automountServiceAccountToken := false
      containers
      imagePullSecrets := settings.cluster.imagePullSecrets
      initContainers := [first]
      nodeSelector := request.nodeSelectors
      restartPolicy := "Never"
      schedulerName := scheduler
      securityContext := settings.cluster.runAs.podContext
      serviceAccountName := account
      tolerations := settings.cluster.tolerations
      volumes := volumes.volumes } }

end Assembly

/-- The pod of a run under the settings. -/
def Settings.buildPod (settings : Settings) (kind : RunKind) (request : RunRequest) :
    Except BuildError Pod :=
  Assembly.pod Observer.silent settings kind request

end SyncPods
