import SyncPods.Proofs.WellFormedPod

/-!
# Who sees which volume

A container sees a volume if it mounts it. Of the volumes of a pod the secret is for the connectors
alone, and nobody can write to it. Each connector sees its own volume and not the other's, the files
to hand over are between the two connectors, and what the init container fills stays with the
orchestrator. None of this hangs on where the volumes are mounted.
-/

namespace SyncPods

/-- A container has a volume of the name before it. -/
def Container.Sees (c : Container) (volume : String) : Prop :=
  volume ∈ c.volumeMounts.map (·.name)

/-- A pod declares a volume of the name. -/
def PodSpec.Declares (spec : PodSpec) (volume : String) : Prop :=
  volume ∈ spec.volumes.map (·.name)

/-- Whether the connectors of a run hand each other files. -/
def RunRequest.handsOver (request : RunRequest) (kind : RunKind) : Bool :=
  match kind with
  | .replication => request.fileTransfer
  | .reset => false

/-- Each container of a pod sees the volumes that are meant for it, and no other ones. -/
structure VolumesApart (settings : Settings) (kind : RunKind) (request : RunRequest)
    (spec : PodSpec) (init orchestrator : Container) (connectors : List Container) : Prop where
  secretDeclared : spec.Declares secretsVolume ↔ settings.cluster.connectorSecret ≠ none
  secretSeen : ∀ c ∈ connectors, c.Sees secretsVolume ↔ settings.cluster.connectorSecret ≠ none
  secretHidden : ∀ c ∈ [init, orchestrator], ¬ c.Sees secretsVolume
  readOnly : ∀ c ∈ spec.allContainers, ∀ mount ∈ c.volumeMounts,
    mount.readOnly = some true ↔ mount.name = secretsVolume
  stagingDeclared : spec.Declares stagingVolume ↔
    kind = .replication ∧ request.fileTransfer = true
  stagingSeen : ∀ c ∈ connectors,
    c.volumeMounts.filter (fun mount => mount.name = stagingVolume) =
      if kind = .replication ∧ request.fileTransfer = true then
        [VolumeMount.plain stagingVolume settings.conventions.stagingDir]
      else []
  stagingHidden : ∀ c ∈ [init, orchestrator], ¬ c.Sees stagingVolume
  configHidden : ∀ c ∈ connectors, ¬ c.Sees configVolume
  sourceOwn : ∀ c ∈ connectors, c.Sees sourceVolume ↔ c.name = Role.source.name
  destinationOwn : ∀ c ∈ connectors, c.Sees destinationVolume ↔ c.name = Role.destination.name
  orchestratorMounts : orchestrator.volumeMounts =
    VolumeMount.plain configVolume settings.conventions.configDir ::
      (kind.ifSource [VolumeMount.plain sourceVolume settings.conventions.sourceDir] ++
        [VolumeMount.plain destinationVolume settings.conventions.destinationDir])
  sameMounts : init.volumeMounts = orchestrator.volumeMounts
  resetWithout : kind = .reset → ∀ volume ∈ [sourceVolume, stagingVolume],
    ¬ spec.Declares volume ∧ ∀ c ∈ spec.allContainers, ¬ c.Sees volume

/-! ## Mounts -/

@[simp]
theorem name_plain (name path : String) : (VolumeMount.plain name path).name = name := rfl

@[simp]
theorem readOnly_plain (name path : String) : (VolumeMount.plain name path).readOnly = none := rfl

namespace VolumeSet

variable {c : Conventions} {secret : Option String} {fileTransfer : Bool} {volume : String}

theorem mem_names_connectorMounts_iff (name : String) :
    name ∈ (connectorMounts c secret fileTransfer volume).map (·.name) ↔
      name = volume ∨ name = secretsVolume ∧ secret ≠ none ∨
        name = stagingVolume ∧ fileTransfer = true := by
  cases secret with
  | none => cases fileTransfer <;> simp [connectorMounts, secretMounts]
  | some secretName => cases fileTransfer <;> simp [connectorMounts, secretMounts]

/-- Of what a connector mounts the secret alone is read-only. -/
theorem readOnly_connectorMounts (own : volume ≠ secretsVolume) :
    ∀ mount ∈ connectorMounts c secret fileTransfer volume,
      mount.readOnly = some true ↔ mount.name = secretsVolume := by
  have staging : stagingVolume ≠ secretsVolume := by decide
  intro mount mounted
  rcases List.mem_cons.mp mounted with rfl | further
  · simp [own]
  rcases List.mem_append.mp further with secretMount | handedOver
  · cases secret with
    | none => cases secretMount
    | some secretName =>
        obtain rfl := List.mem_singleton.mp secretMount
        simp
  · cases fileTransfer with
    | false => cases handedOver
    | true =>
        obtain rfl := List.mem_singleton.mp handedOver
        simp [staging]

theorem filter_staging (own : volume ≠ stagingVolume) :
    (connectorMounts c secret fileTransfer volume).filter
        (fun mount => mount.name = stagingVolume) =
      if fileTransfer = true then [VolumeMount.plain stagingVolume c.stagingDir] else [] := by
  have secrets : secretsVolume ≠ stagingVolume := by decide
  cases secret with
  | none => cases fileTransfer <;> simp [connectorMounts, secretMounts, own]
  | some secretName => cases fileTransfer <;> simp [connectorMounts, secretMounts, own, secrets]

end VolumeSet

/-! ## The containers of a build -/

namespace Settings

variable {settings : Settings} {kind : RunKind} {request : RunRequest}

theorem handsOver_iff :
    request.handsOver kind = true ↔ kind = .replication ∧ request.fileTransfer = true := by
  cases kind <;> simp [RunRequest.handsOver]

theorem declares_plannedSpec_iff (volume : String) :
    (settings.plannedSpec kind request).Declares volume ↔
      volume = configVolume ∨ volume = destinationVolume ∨
        volume = sourceVolume ∧ kind = .replication ∨
        volume = secretsVolume ∧ settings.cluster.connectorSecret ≠ none ∨
        volume = stagingVolume ∧ request.handsOver kind = true := by
  rw [PodSpec.Declares]
  cases kind with
  | replication =>
      rw [plannedSpec, plannedVolumes, VolumeSet.volumeNames_replication]
      cases settings.cluster.connectorSecret <;> cases transfer : request.fileTransfer <;>
        simp [RunRequest.handsOver, transfer, or_comm, or_left_comm]
  | reset =>
      rw [plannedSpec, plannedVolumes, VolumeSet.volumeNames_reset]
      cases settings.cluster.connectorSecret <;>
        simp [RunRequest.handsOver, or_comm]

/-- A connector goes by the name of its volume, and mounts what connectors do. -/
theorem connectorMounts_of_mem {c : Container} (member : c ∈ settings.plannedConnectors kind request) :
    (c.name = sourceVolume ∨ c.name = destinationVolume) ∧
      c.volumeMounts = VolumeSet.connectorMounts settings.conventions
        settings.cluster.connectorSecret (request.handsOver kind) c.name := by
  cases kind with
  | replication =>
      rcases List.mem_cons.mp member with rfl | last
      · exact ⟨Or.inl rfl, rfl⟩
      · obtain rfl := List.mem_singleton.mp last
        exact ⟨Or.inr rfl, rfl⟩
  | reset =>
      obtain rfl := List.mem_singleton.mp member
      exact ⟨Or.inr rfl, VolumeSet.destinationMounts_reset_eq settings.cluster.connectorSecret⟩

theorem sees_connector_iff {c : Container} (member : c ∈ settings.plannedConnectors kind request)
    (volume : String) :
    c.Sees volume ↔
      volume = c.name ∨ volume = secretsVolume ∧ settings.cluster.connectorSecret ≠ none ∨
        volume = stagingVolume ∧ request.handsOver kind = true := by
  rw [Container.Sees, (connectorMounts_of_mem member).2, VolumeSet.mem_names_connectorMounts_iff]

theorem sees_orchestrator_iff (volume : String) :
    (settings.plannedOrchestrator kind request).Sees volume ↔
      volume = configVolume ∨ volume = destinationVolume ∨
        volume = sourceVolume ∧ kind = .replication := by
  cases kind with
  | replication =>
      simp [Container.Sees, plannedOrchestrator, plannedContainer, plannedVolumes,
        VolumeSet.replication, or_comm]
  | reset =>
      simp [Container.Sees, plannedOrchestrator, plannedContainer, plannedVolumes,
        VolumeSet.reset]

theorem readOnly_orchestrator :
    ∀ mount ∈ (settings.plannedOrchestrator kind request).volumeMounts,
      mount.readOnly = some true ↔ mount.name = secretsVolume := by
  have plain : ∀ mount ∈ (settings.plannedOrchestrator kind request).volumeMounts,
      mount.readOnly = none := by
    cases kind <;>
      simp [plannedOrchestrator, plannedContainer, plannedVolumes, VolumeSet.replication,
        VolumeSet.reset]
  intro mount mounted
  rw [plain mount mounted]
  constructor
  · intro isReadOnly
    cases isReadOnly
  · intro isSecret
    have seen : (settings.plannedOrchestrator kind request).Sees secretsVolume :=
      List.mem_map.mpr ⟨mount, mounted, isSecret⟩
    rcases sees_orchestrator_iff secretsVolume |>.mp seen with other | other | ⟨other, -⟩
    · exact absurd other (by decide)
    · exact absurd other (by decide)
    · exact absurd other (by decide)

theorem readOnly_connector {c : Container} (member : c ∈ settings.plannedConnectors kind request) :
    ∀ mount ∈ c.volumeMounts, mount.readOnly = some true ↔ mount.name = secretsVolume := by
  obtain ⟨own, mounts⟩ := connectorMounts_of_mem member
  rw [mounts]
  apply VolumeSet.readOnly_connectorMounts
  rcases own with own | own
  · rw [own]
    decide
  · rw [own]
    decide

/-- All containers of a pod: the two that share their mounts, and the connectors. -/
theorem mem_allContainers_iff (c : Container) :
    c ∈ (settings.plannedSpec kind request).allContainers ↔
      c = settings.plannedInit kind request ∨ c = settings.plannedOrchestrator kind request ∨
        c ∈ settings.plannedConnectors kind request := by
  simp [PodSpec.allContainers, plannedSpec]

theorem volumesApart_plannedSpec :
    VolumesApart settings kind request (settings.plannedSpec kind request)
      (settings.plannedInit kind request) (settings.plannedOrchestrator kind request)
      (settings.plannedConnectors kind request) := by
  -- The init container has the mounts of the orchestrator, so it sees the same volumes.
  have twins (volume : String) (hidden : ¬ (settings.plannedOrchestrator kind request).Sees volume) :
      ∀ c ∈ [settings.plannedInit kind request, settings.plannedOrchestrator kind request],
        ¬ c.Sees volume :=
    List.forall_mem_cons.mpr ⟨hidden, List.forall_mem_singleton.mpr hidden⟩
  constructor
  case secretDeclared =>
    rw [declares_plannedSpec_iff]
    simp [secretsVolume, configVolume, destinationVolume, sourceVolume, stagingVolume]
  case secretSeen =>
    intro c member
    rw [sees_connector_iff member]
    rcases (connectorMounts_of_mem member).1 with own | own <;>
      simp [own, secretsVolume, destinationVolume, sourceVolume, stagingVolume]
  case secretHidden =>
    apply twins
    rw [sees_orchestrator_iff]
    simp [secretsVolume, configVolume, destinationVolume, sourceVolume]
  case readOnly =>
    intro c member
    rcases (mem_allContainers_iff c).mp member with rfl | rfl | connector
    · exact readOnly_orchestrator
    · exact readOnly_orchestrator
    · exact readOnly_connector connector
  case stagingDeclared =>
    rw [declares_plannedSpec_iff, ← handsOver_iff]
    simp [secretsVolume, configVolume, destinationVolume, sourceVolume, stagingVolume]
  case stagingSeen =>
    intro c member
    obtain ⟨own, mounts⟩ := connectorMounts_of_mem member
    have other : c.name ≠ stagingVolume := by
      rcases own with own | own
      · rw [own]
        decide
      · rw [own]
        decide
    rw [mounts, VolumeSet.filter_staging other]
    simp only [handsOver_iff]
  case stagingHidden =>
    apply twins
    rw [sees_orchestrator_iff]
    simp [stagingVolume, configVolume, destinationVolume, sourceVolume]
  case configHidden =>
    intro c member
    rw [sees_connector_iff member]
    rcases (connectorMounts_of_mem member).1 with own | own <;>
      simp [own, configVolume, secretsVolume, destinationVolume, sourceVolume, stagingVolume]
  case sourceOwn =>
    intro c member
    rw [sees_connector_iff member, eq_comm]
    simp [secretsVolume, sourceVolume, stagingVolume, Role.name]
  case destinationOwn =>
    intro c member
    rw [sees_connector_iff member, eq_comm]
    simp [secretsVolume, destinationVolume, stagingVolume, Role.name]
  case orchestratorMounts => cases kind <;> rfl
  case sameMounts => rfl
  case resetWithout =>
    rintro rfl volume gone
    have gone : volume = sourceVolume ∨ volume = stagingVolume := by simpa using gone
    constructor
    · rw [declares_plannedSpec_iff]
      rcases gone with rfl | rfl <;>
        simp [secretsVolume, configVolume, destinationVolume, sourceVolume, stagingVolume,
          RunRequest.handsOver]
    · intro c member
      have unseen : ¬ (settings.plannedOrchestrator .reset request).Sees volume := by
        rw [sees_orchestrator_iff]
        rcases gone with rfl | rfl <;>
          simp [configVolume, destinationVolume, sourceVolume, stagingVolume]
      rcases (mem_allContainers_iff c).mp member with rfl | rfl | connector
      · exact unseen
      · exact unseen
      · have last : c = settings.plannedDestination .reset request :=
          List.mem_singleton.mp connector
        rw [sees_connector_iff connector, last]
        rcases gone with rfl | rfl <;>
          simp [plannedDestination, plannedContainer, Role.name, secretsVolume, sourceVolume,
            stagingVolume, RunRequest.handsOver]

/-- In every pod that is built, each volume is seen by those containers alone that it is meant for,
and what is mounted read-only is the secret and nothing else. -/
theorem buildPod_keeps_volumes_apart {pod : Pod}
    (built : settings.buildPod kind request = .ok pod) :
    ∃ spec init orchestrator connectors,
      pod.spec = some spec ∧ spec.initContainers = [init] ∧
        spec.containers = orchestrator :: connectors ∧ init.name = Role.init.name ∧
        orchestrator.name = Role.orchestrator.name ∧
        connectors.map (·.name) = kind.ifSource [Role.source.name] ++ [Role.destination.name] ∧
        VolumesApart settings kind request spec init orchestrator connectors := by
  obtain ⟨-, rfl⟩ := buildPod_eq_ok_iff.mp built
  refine ⟨settings.plannedSpec kind request, settings.plannedInit kind request,
    settings.plannedOrchestrator kind request, settings.plannedConnectors kind request,
    rfl, rfl, rfl, rfl, rfl, ?_, volumesApart_plannedSpec⟩
  cases kind <;> rfl

end Settings

/-- The sample's settings with one directory for all that a connector mounts. -/
def Sample.crampedSettings : Settings :=
  { settings with
    conventions := { settings.conventions with stagingDir := "/config", secretsDir := "/config" } }

theorem Settings.buildPod_keeps_volumes_apart_crampedSettings :
    ¬ Sample.crampedSettings.conventions.DistinctDirs ∧
      ∃ pod, Sample.crampedSettings.buildPod .replication Sample.request = .ok pod ∧
        ∃ spec init orchestrator connectors,
          pod.spec = some spec ∧ spec.initContainers = [init] ∧
            spec.containers = orchestrator :: connectors ∧ init.name = Role.init.name ∧
            orchestrator.name = Role.orchestrator.name ∧
            connectors.map (·.name) = [Role.source.name] ++ [Role.destination.name] ∧
            VolumesApart Sample.crampedSettings .replication Sample.request spec init
              orchestrator connectors := by
  have built : Sample.crampedSettings.buildPod .replication Sample.request =
      .ok (Sample.crampedSettings.plannedPod .replication Sample.request) :=
    buildPod_eq_ok_iff.mpr ⟨by decide, rfl⟩
  exact ⟨by decide, _, built, buildPod_keeps_volumes_apart built⟩

end SyncPods
