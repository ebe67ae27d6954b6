import SyncPods.Proofs.BuiltPod
import SyncPods.Proofs.PodText
import SyncPods.Proofs.ResourceRecovery
import SyncPods.Proofs.UuidText

/-!
# The manifest of a pod tells its request

Everything that a run makes of a request can be found in the manifest of its pod: under the same
settings, requests that a run sees differently never have the same manifest.
-/

namespace SyncPods

namespace RunRequest

/-- The request with its resources as far as they count. -/
def normal (request : RunRequest) : RunRequest :=
  { request with
    orchestratorResources := normalSpec request.orchestratorResources
    sourceResources := normalSpec request.sourceResources
    destinationResources := normalSpec request.destinationResources }

/-- The request without what is only there for a source. -/
def withoutSource (request : RunRequest) : RunRequest :=
  { request with
    sourceImage := ""
    sourceResources := none
    sourceEnv := []
    fileTransfer := false }

/-- What a run of the kind sees of a request. -/
def seenBy (request : RunRequest) (kind : RunKind) : RunRequest :=
  match kind with
  | .replication => request.normal
  | .reset => request.normal.withoutSource

end RunRequest

namespace Settings

variable {settings : Settings} {kind : RunKind} {request request' : RunRequest}

/-! ## Parts of the pod -/

theorem plannedContainer_inj {role : Role} {image image' : String}
    {resources resources' : Option ResourceSpec} {mounts mounts' : List VolumeMount}
    {env env' : List EnvVar} {script script' : Option String}
    (same : settings.plannedContainer role image resources mounts env script =
      settings.plannedContainer role image' resources' mounts' env' script') :
    image = image' ∧ normalSpec resources = normalSpec resources' ∧ env = env' :=
  ⟨congrArg Container.image same,
    normalSpec_eq_of_resourceNeeds_eq (congrArg Container.resources same),
    congrArg Container.env same⟩

/-- The workspace stands behind the variables of the init container. -/
theorem workspaceId_eq_of_plannedInit_eq
    (same : settings.plannedInit kind request = settings.plannedInit kind request') :
    request.workspaceId = request'.workspaceId := by
  have env : request.orchestratorEnv ++
        [EnvVar.plain workspaceVariable request.workspaceId.text] =
      request'.orchestratorEnv ++ [EnvVar.plain workspaceVariable request'.workspaceId.text] :=
    (plannedContainer_inj same).2.2
  have last := congrArg List.getLast? env
  have text : request.workspaceId.text = request'.workspaceId.text := by
    simpa [EnvVar.plain] using last
  exact Uuid.text_injective text

/-- Files are handed over just when there is a volume for them. -/
theorem fileTransfer_eq_of_plannedVolumes_eq
    (same : (settings.plannedVolumes .replication request).volumes =
      (settings.plannedVolumes .replication request').volumes) :
    request.fileTransfer = request'.fileTransfer := by
  have staging := List.append_cancel_left same
  cases handed : request.fileTransfer <;> cases handed' : request'.fileTransfer <;>
    simp [handed, handed'] at staging ⊢

/-! ## The whole pod -/

theorem seenBy_eq_of_plannedPod_eq
    (same : settings.plannedPod kind request = settings.plannedPod kind request') :
    request.seenBy kind = request'.seenBy kind := by
  obtain ⟨sameMetadata, sameSpec⟩ := Pod.mk.inj same
  have spec := Option.some.inj sameSpec
  have ⟨podName, labels, annotations⟩ :
      request.podName = request'.podName ∧ request.labels = request'.labels ∧
        request.annotations = request'.annotations := by
    simpa using sameMetadata
  have nodes : request.nodeSelectors = request'.nodeSelectors := congrArg PodSpec.nodeSelector spec
  have init := (List.cons.inj (congrArg PodSpec.initContainers spec)).1
  have workspace := workspaceId_eq_of_plannedInit_eq init
  obtain ⟨orchestrator, connectors⟩ := List.cons.inj (congrArg PodSpec.containers spec)
  obtain ⟨image, resources, env⟩ := plannedContainer_inj orchestrator
  cases kind with
  | replication =>
      obtain ⟨source, connectors⟩ := List.cons.inj connectors
      obtain ⟨destination, _⟩ := List.cons.inj connectors
      obtain ⟨sourceImage, sourceResources, sourceEnv⟩ := plannedContainer_inj source
      obtain ⟨destinationImage, destinationResources, destinationEnv⟩ :=
        plannedContainer_inj destination
      have files := fileTransfer_eq_of_plannedVolumes_eq (congrArg PodSpec.volumes spec)
      simp only [RunRequest.seenBy, RunRequest.normal, podName, labels, annotations, nodes, image,
        resources, env, sourceImage, sourceResources, sourceEnv, destinationImage,
        destinationResources, destinationEnv, files, workspace]
  | reset =>
      obtain ⟨destination, _⟩ := List.cons.inj connectors
      obtain ⟨destinationImage, destinationResources, destinationEnv⟩ :=
        plannedContainer_inj destination
      simp only [RunRequest.seenBy, RunRequest.normal, RunRequest.withoutSource, podName, labels,
        annotations, nodes, image, resources, env, destinationImage, destinationResources,
        destinationEnv, workspace]

/-- Requests whose pods have the same manifest are the same to a run. -/
theorem seenBy_eq_of_manifest_eq {pod pod' : Pod}
    (built : settings.buildPod kind request = .ok pod)
    (built' : settings.buildPod kind request' = .ok pod') (same : pod.manifest = pod'.manifest) :
    request.seenBy kind = request'.seenBy kind := by
  obtain ⟨_, rfl⟩ := buildPod_eq_ok_iff.mp built
  obtain ⟨_, rfl⟩ := buildPod_eq_ok_iff.mp built'
  exact seenBy_eq_of_plannedPod_eq (Pod.manifest_injective same)

end Settings

/-- The sample's request without blanks around its quantities, and without a specification that
sets none. -/
def Sample.tidyRequest : RunRequest :=
  { request with
    orchestratorResources := some ⟨some "500m", none, none, none, none, some "2Gi"⟩
    destinationResources := none }

theorem Sample.plannedPod_tidyRequest :
    settings.plannedPod .replication tidyRequest = settings.plannedPod .replication request := by
  rfl

theorem Settings.seenBy_eq_of_manifest_eq_tidyRequest :
    Sample.settings.buildPod .replication Sample.request =
        .ok (Sample.settings.plannedPod .replication Sample.request) ∧
      Sample.settings.buildPod .replication Sample.tidyRequest =
        .ok (Sample.settings.plannedPod .replication Sample.request) ∧
      Sample.request.seenBy .replication = Sample.tidyRequest.seenBy .replication := by
  have built : Sample.settings.buildPod .replication Sample.tidyRequest =
      .ok (Sample.settings.plannedPod .replication Sample.request) :=
    buildPod_eq_ok_iff.mpr ⟨rfl, Sample.plannedPod_tidyRequest⟩
  exact ⟨Sample.built .replication, built,
    seenBy_eq_of_manifest_eq (Sample.built .replication) built rfl⟩

end SyncPods
