import SyncPods.Proofs.Actions

/-!
# The pod of a build

A build is a list of checks and a pod that is there whatever the checks say: `buildPod_eq` takes
the assembly apart into `faults` and `plannedPod`. What holds of the pod of a build is then shown
of the planned pod, which no step can fail to give. An assembly that somebody is told of goes
through the same checks, with the calls and the event that belong to them: `Assembly.pod_eq` lists
them as `actions`.
-/

namespace SyncPods

/-- What only runs with a source have. -/
def RunKind.ifSource {α : Type} (kind : RunKind) (items : List α) : List α :=
  match kind with
  | .replication => items
  | .reset => []

@[simp]
theorem RunKind.ifSource_replication {α : Type} (items : List α) :
    RunKind.replication.ifSource items = items := rfl

@[simp]
theorem RunKind.ifSource_reset {α : Type} (items : List α) :
    RunKind.reset.ifSource items = [] := rfl

theorem RunKind.mem_of_mem_ifSource {α : Type} {kind : RunKind} {item : α} {items : List α}
    (member : item ∈ kind.ifSource items) : item ∈ items := by
  cases kind with
  | replication => exact member
  | reset => cases member

namespace Settings

variable (settings : Settings) (kind : RunKind) (request : RunRequest)

/-! ## Containers -/

/-- A container of the role, with what all containers have in common. -/
def plannedContainer (role : Role) (image : String) (resources : Option ResourceSpec)
    (mounts : List VolumeMount) (env : List EnvVar) (script : Option String) : Container where
  command := script.map fun script => ["sh", "-c", script]
  env
  image
  imagePullPolicy := settings.cluster.imagePullPolicy
  name := role.name
  resources := resourceNeeds resources
  securityContext := settings.cluster.runAs.containerContext
  volumeMounts := mounts

def plannedVolumes : VolumeSet :=
  match kind with
  | .replication =>
    VolumeSet.replication settings.conventions settings.cluster.connectorSecret
      request.fileTransfer
  | .reset => VolumeSet.reset settings.conventions settings.cluster.connectorSecret

def plannedInit : Container :=
  settings.plannedContainer .init settings.cluster.initImage request.orchestratorResources
    (settings.plannedVolumes kind request).orchestratorMounts
    (request.orchestratorEnv ++ [EnvVar.plain workspaceVariable request.workspaceId.text]) none

def plannedOrchestrator : Container :=
  let mounts := (settings.plannedVolumes kind request).orchestratorMounts
  settings.plannedContainer .orchestrator request.orchestratorImage request.orchestratorResources
    mounts request.orchestratorEnv
    (some (Script.sidecar settings.conventions (Assembly.markerDirs mounts)))

def plannedSource : Container :=
  settings.plannedContainer .source request.sourceImage request.sourceResources
    (settings.plannedVolumes kind request).sourceMounts request.sourceEnv
    (some (Script.sourceRead settings.conventions))

def plannedDestination : Container :=
  settings.plannedContainer .destination request.destinationImage request.destinationResources
    (settings.plannedVolumes kind request).destinationMounts request.destinationEnv
    (some (Script.destinationWrite settings.conventions))

/-- The connectors of a run, in the order of their containers. -/
def plannedConnectors : List Container :=
  kind.ifSource [settings.plannedSource kind request] ++
    [settings.plannedDestination kind request]

/-! ## The pod -/

/-- The service account, unless the workspace has it removed. -/
def plannedAccount : Option String :=
  if settings.flags.boolValue removeAccountFlag (.workspace request.workspaceId) then none
  else settings.cluster.serviceAccount

def plannedSpec : PodSpec where
  automountServiceAccountToken := false
  containers := settings.plannedOrchestrator kind request :: settings.plannedConnectors kind request
  imagePullSecrets := settings.cluster.imagePullSecrets
  initContainers := [settings.plannedInit kind request]
  nodeSelector := request.nodeSelectors
  restartPolicy := "Never"
  schedulerName := settings.flags.textValue schedulerFlag FlagContext.anonymous
  securityContext := settings.cluster.runAs.podContext
  serviceAccountName := settings.plannedAccount request
  tolerations := settings.cluster.tolerations
  volumes := (settings.plannedVolumes kind request).volumes

def plannedPod : Pod where
  metadata := ⟨some request.podName, some request.labels, some request.annotations⟩
  spec := some (settings.plannedSpec kind request)

/-! ## The checks -/

/-- The images that are missing. -/
def imageFaults : List (Option BuildError) :=
  imageFault .orchestrator request.orchestratorImage ::
    kind.ifSource [imageFault .source request.sourceImage] ++
    [imageFault .destination request.destinationImage]

/-- The fault of the flag that names the scheduler, which is asked for no connection in
particular. -/
def schedulerFault : Option BuildError :=
  (settings.flags.textFault schedulerFlag FlagContext.anonymous).map .flag

/-- The quantities that are not valid. The orchestrator's are those of the init container too, and
the init container comes first. -/
def quantityFaults : List (Option BuildError) :=
  quantityFault .init request.orchestratorResources ::
    kind.ifSource [quantityFault .source request.sourceResources] ++
    [quantityFault .destination request.destinationResources]

/-- The fault of the flag that removes the service account from a workspace. -/
def accountFault : Option BuildError :=
  (settings.flags.boolFault removeAccountFlag (.workspace request.workspaceId)).map .flag

/-- The outcome of each check of a build, in the order of the checks. -/
def faults : List (Option BuildError) :=
  imageFaults kind request ++ settings.schedulerFault :: quantityFaults kind request ++
    [settings.accountFault request]

/-! ## The steps -/

/-- The call for the volumes of a run. -/
def volumesCall : Call :=
  match kind with
  | .replication => .replicationVolumes request.fileTransfer
  | .reset => .resetVolumes

/-- The steps to a container of the role, which asks for its security context once its quantities
are checked. -/
def containerSteps (role : Role) (resources : Option ResourceSpec) (mounts : List VolumeMount)
    (env : List EnvVar) (subject : String) : List Assembly.Step :=
  [⟨.container role resources mounts env subject, quantityFault role resources⟩,
    ⟨.containerSecurity, none⟩]

def initSteps : List Assembly.Step :=
  containerSteps .init request.orchestratorResources
    (settings.plannedVolumes kind request).orchestratorMounts request.orchestratorEnv
    request.workspaceId.text

def orchestratorSteps : List Assembly.Step :=
  containerSteps .orchestrator request.orchestratorResources
    (settings.plannedVolumes kind request).orchestratorMounts request.orchestratorEnv
    request.orchestratorImage

def sourceSteps : List Assembly.Step :=
  containerSteps .source request.sourceResources
    (settings.plannedVolumes kind request).sourceMounts request.sourceEnv request.sourceImage

def destinationSteps : List Assembly.Step :=
  containerSteps .destination request.destinationResources
    (settings.plannedVolumes kind request).destinationMounts request.destinationEnv
    request.destinationImage

def mainSteps : List Assembly.Step :=
  settings.orchestratorSteps kind request ++ kind.ifSource (settings.sourceSteps kind request) ++
    settings.destinationSteps kind request

def schedulerStep : Assembly.Step :=
  ⟨.textFlag schedulerFlag FlagContext.anonymous, settings.schedulerFault⟩

def accountStep : Assembly.Step :=
  ⟨.boolFlag removeAccountFlag (.workspace request.workspaceId), settings.accountFault request⟩

/-- The steps of a build in their order, up to the one that asks for the pod's own security
context. -/
def partSteps : List Assembly.Step :=
  ⟨volumesCall kind request, none⟩ :: settings.schedulerStep ::
    settings.initSteps kind request ++ settings.mainSteps kind request ++
    [settings.accountStep request]

/-- The event that tells of the planned pod. -/
def plannedEvent : Log.Event :=
  Assembly.assembledEvent kind request (settings.plannedSpec kind request).containers
    (settings.plannedSpec kind request).schedulerName

/-- What a build does: it checks the images, takes its steps, and tells of the pod before it asks
for the pod's security context. -/
def actions : List Assembly.Action :=
  (imageFaults kind request).map .check ++
    (settings.partSteps kind request).map .ask ++
    [.log (settings.plannedEvent kind request), .ask ⟨.podSecurity, none⟩]

end Settings

namespace Assembly

variable {m : Type → Type} [Monad m] [LawfulMonad m] [MonadExceptOf BuildError m]
  (observer : Observer m) (settings : Settings) (kind : RunKind) (request : RunRequest)

theorem requireImage_eq (role : Role) (image : String) :
    requireImage role image = performed observer [.check (imageFault role image)] () := by
  rw [requireImage, imageFault]
  simp only [trim_eq_empty_iff]
  split <;> simp [performed, perform, fail]

theorem requireImages_eq :
    requireImages kind request =
      performed observer ((Settings.imageFaults kind request).map .check) () := by
  rw [requireImages]
  simp only [requireImage_eq observer]
  cases kind with
  | replication =>
      simp only [performed_bind]
      rfl
  | reset =>
      simp only [performed_bind]
      rfl

theorem volumeSet_eq :
    volumeSet observer settings kind request.fileTransfer =
      performed observer [.ask ⟨Settings.volumesCall kind request, none⟩]
        (settings.plannedVolumes kind request) := by
  cases kind with
  | replication => exact call_bind_pure observer (.replicationVolumes request.fileTransfer) _
  | reset => exact call_bind_pure observer .resetVolumes _

variable [StopsAtFailure m]

theorem container_eq (role : Role) (image : String) (resources : Option ResourceSpec)
    (mounts : List VolumeMount) (env : List EnvVar) (script : Option String) :
    container observer settings role image resources mounts env script =
      performed observer [.check (quantityFault role resources), .ask ⟨.containerSecurity, none⟩]
        (settings.plannedContainer role image resources mounts env script) := by
  have last (requirements : Option ResourceRequirements) :=
    call_bind_pure observer .containerSecurity
      { settings.plannedContainer role image resources mounts env script with
        resources := requirements }
  rw [container, resourceRequirements_eq, ofExcept_guarded observer]
  exact (bind_congr last).trans (performed_bind observer _ _ (fun _ => _) _)

theorem initContainer_eq :
    initContainer observer settings request.orchestratorResources
        (settings.plannedVolumes kind request).orchestratorMounts request.orchestratorEnv
        request.workspaceId =
      performed observer ((settings.initSteps kind request).map .ask)
        (settings.plannedInit kind request) := by
  rw [initContainer, container_eq, call_bind_performed_check]
  rfl

theorem orchestrator_eq :
    orchestrator observer settings request.orchestratorResources
        (settings.plannedVolumes kind request).orchestratorMounts request.orchestratorEnv
        request.orchestratorImage =
      performed observer ((settings.orchestratorSteps kind request).map .ask)
        (settings.plannedOrchestrator kind request) := by
  rw [orchestrator, container_eq, call_bind_performed_check]
  rfl

theorem source_eq :
    source observer settings request.sourceResources
        (settings.plannedVolumes kind request).sourceMounts request.sourceEnv
        request.sourceImage =
      performed observer ((settings.sourceSteps kind request).map .ask)
        (settings.plannedSource kind request) := by
  rw [source, container_eq, call_bind_performed_check]
  rfl

theorem destination_eq :
    destination observer settings request.destinationResources
        (settings.plannedVolumes kind request).destinationMounts request.destinationEnv
        request.destinationImage =
      performed observer ((settings.destinationSteps kind request).map .ask)
        (settings.plannedDestination kind request) := by
  rw [destination, container_eq, call_bind_performed_check]
  rfl

theorem mainContainers_eq :
    mainContainers observer settings kind request (settings.plannedVolumes kind request) =
      performed observer ((settings.mainSteps kind request).map .ask)
        (settings.plannedSpec kind request).containers := by
  rw [mainContainers, orchestrator_eq, destination_eq]
  cases kind with
  | replication =>
      simp only [source_eq, pure_bind, performed_bind_pure, performed_bind, Settings.mainSteps,
        List.map_append, List.append_assoc]
      rfl
  | reset =>
      simp only [pure_bind, performed_bind_pure, performed_bind, Settings.mainSteps,
        List.map_append, RunKind.ifSource_reset, List.append_nil]
      rfl

theorem textFlag_eq :
    textFlag observer settings schedulerFlag FlagContext.anonymous =
      performed observer [.ask settings.schedulerStep]
        (settings.plannedSpec kind request).schedulerName := by
  rw [textFlag, FlagSettings.evaluateText_eq, mapError_guarded, ofExcept_guarded observer,
    call_bind_performed_check]
  rfl

theorem serviceAccount_eq :
    serviceAccount observer settings request =
      performed observer [.ask (settings.accountStep request)]
        (settings.plannedAccount request) := by
  rw [serviceAccount, boolFlag, FlagSettings.evaluateBool_eq, mapError_guarded,
    ofExcept_guarded observer, call_bind_performed_check, performed_bind_pure]
  rfl

/-- Whoever is told of an assembly, it goes through the actions of the build. -/
theorem pod_eq :
    pod observer settings kind request =
      performed observer (settings.actions kind request) (settings.plannedPod kind request) := by
  rw [pod, requireImages_eq observer, volumeSet_eq, textFlag_eq observer settings kind request,
    serviceAccount_eq]
  -- From here on every step is a list of actions, and what is left is to put the lists in a row.
  simp only [performed, bind_assoc, pure_bind, initContainer_eq, mainContainers_eq,
    Settings.actions, Settings.partSteps, List.map_append, List.map_cons, List.map_nil,
    List.cons_append, List.forM_append, List.forM_cons, List.forM_nil, perform, fail]
  rfl

end Assembly

namespace Settings

variable (settings : Settings) (kind : RunKind) (request : RunRequest)

@[simp]
theorem firstFault_containerSteps (role : Role) (resources : Option ResourceSpec)
    (mounts : List VolumeMount) (env : List EnvVar) (subject : String) :
    firstFault ((containerSteps role resources mounts env subject).map Assembly.Step.fault) =
      quantityFault role resources := by
  simp [containerSteps]

/-- The quantities of the orchestrator are checked twice, and fail the first time if at all. -/
theorem firstFault_faults :
    firstFault (settings.faults kind request) =
      (firstFault (imageFaults kind request)).or
        (firstFault ((settings.partSteps kind request).map Assembly.Step.fault)) := by
  have main : firstFault ((settings.mainSteps kind request).map Assembly.Step.fault) =
      (quantityFault .orchestrator request.orchestratorResources).or
        ((firstFault (kind.ifSource [quantityFault .source request.sourceResources])).or
          (quantityFault .destination request.destinationResources)) := by
    cases kind <;> simp [mainSteps, orchestratorSteps, sourceSteps, destinationSteps]
  simp [faults, quantityFaults, partSteps, schedulerStep, accountStep, initSteps, main,
    Option.or_assoc, quantityFault_or_quantityFault]

theorem firstFault_actions :
    firstFault ((settings.actions kind request).map Assembly.Action.fault) =
      firstFault (settings.faults kind request) := by
  rw [firstFault_faults]
  simp [actions, Function.comp_def, Assembly.Action.fault]

end Settings

/-- A build is the planned pod, unless one of its checks fails. -/
theorem Settings.buildPod_eq (settings : Settings) (kind : RunKind) (request : RunRequest) :
    settings.buildPod kind request =
      guarded (firstFault (settings.faults kind request)) (settings.plannedPod kind request) := by
  rw [buildPod, Assembly.pod_eq, Assembly.performed_silent, firstFault_actions]

/-- A build gives a pod just when all checks pass, and then it is the planned one. -/
theorem Settings.buildPod_eq_ok_iff {settings : Settings} {kind : RunKind} {request : RunRequest}
    {pod : Pod} :
    settings.buildPod kind request = .ok pod ↔
      firstFault (settings.faults kind request) = none ∧
        settings.plannedPod kind request = pod := by
  rw [buildPod_eq, guarded_eq_ok_iff]

/-! ## A run to look at -/

namespace Sample

/-- Settings with a secret for the connectors. -/
def settings : Settings where
  dataPlane := "local"
  cluster :=
    { namespaceName := "jobs"
      serviceAccount := some "replication-job"
      imagePullSecrets := ["registry"]
      imagePullPolicy := none
      initImage := "init:1"
      connectorSecret := some "creds"
      tolerations := []
      runAs := RunAs.builtIn }
  flags := ⟨∅, [⟨removeAccountFlag.key, ⟨7⟩, .text "true"⟩]⟩
  conventions := Conventions.builtIn
  errorTracking := none

/-- A request for a run whose connectors hand each other files. -/
def request : RunRequest where
  podName := "job-7"
  labels := Dict.ofList [("job", "7")]
  annotations := ∅
  nodeSelectors := ∅
  orchestratorImage := "orchestrator:1"
  sourceImage := "source:1"
  destinationImage := "destination:1"
  orchestratorResources := some ⟨some " 500m", none, some "", none, none, some "2Gi"⟩
  sourceResources := none
  destinationResources := some ⟨none, none, none, some " ", none, none⟩
  orchestratorEnv := [EnvVar.plain "JOB_ID" "7"]
  sourceEnv := []
  destinationEnv := [⟨"TOKEN", none, some ⟨none, none, none, some ⟨"token", "creds", none⟩⟩⟩]
  fileTransfer := true
  workspaceId := ⟨7⟩

theorem passes (kind : RunKind) : firstFault (settings.faults kind request) = none := by
  cases kind <;> decide

theorem built (kind : RunKind) :
    settings.buildPod kind request = .ok (settings.plannedPod kind request) :=
  Settings.buildPod_eq_ok_iff.mpr ⟨passes kind, rfl⟩

end Sample

end SyncPods
