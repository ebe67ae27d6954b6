import SyncPods.Proofs.SharedFiles

/-!
# Volumes that a pod may have

The volume for files to hand over and the one with the connectors' secret are there only if they are
asked for. With one of them a pod is what it is without, but for the volume itself and a mount of it
in every connector: no other container changes, no build fails that did not fail before, and none
fails in another way.
-/

namespace SyncPods

/-- An item in front of the first one of a kind, or behind all if there is none. -/
def insertBefore {α : Type} (isNext : α → Bool) (item : α) : List α → List α
  | [] => [item]
  | next :: rest =>
    if isNext next then item :: next :: rest else next :: insertBefore isNext item rest

/-- A container as it is, or if it is a connector, with other mounts. -/
def Container.overMounts (change : List VolumeMount → List VolumeMount) (c : Container) :
    Container :=
  if c.name = Role.source.name ∨ c.name = Role.destination.name then
    { c with volumeMounts := change c.volumeMounts }
  else c

/-- A specification as it is, but for its volumes and for what the connectors mount. -/
def PodSpec.overVolumes (change : List Volume → List Volume)
    (changeMounts : List VolumeMount → List VolumeMount) (spec : PodSpec) : PodSpec :=
  { spec with
    containers := spec.containers.map (Container.overMounts changeMounts)
    volumes := change spec.volumes }

def Pod.overVolumes (change : List Volume → List Volume)
    (changeMounts : List VolumeMount → List VolumeMount) (pod : Pod) : Pod :=
  { pod with spec := pod.spec.map (PodSpec.overVolumes change changeMounts) }

/-- A pod with a volume for files to hand over, which the connectors mount behind all else. -/
def Pod.withStaging (c : Conventions) : Pod → Pod :=
  Pod.overVolumes (· ++ [⟨stagingVolume, .emptyDir⟩])
    (· ++ [VolumeMount.plain stagingVolume c.stagingDir])

/-- How a connector mounts its secret. -/
def secretMount (c : Conventions) : VolumeMount :=
  { VolumeMount.plain secretsVolume c.secretsDir with readOnly := some true }

/-- A pod with a volume of a secret that the connectors mount read-only. It comes in front of the
files to hand over. -/
def Pod.withSecret (c : Conventions) (name : String) : Pod → Pod :=
  Pod.overVolumes (insertBefore (·.name = stagingVolume) ⟨secretsVolume, .secret name⟩)
    (insertBefore (·.name = stagingVolume) (secretMount c))

/-- Settings with another secret for the connectors, or with none. -/
def Settings.withSecret (settings : Settings) (secret : Option String) : Settings :=
  { settings with cluster := { settings.cluster with connectorSecret := secret } }

def RunRequest.withFileTransfer (request : RunRequest) (fileTransfer : Bool) : RunRequest :=
  { request with fileTransfer }

/-! ## Volumes and mounts -/

namespace VolumeSet

variable (c : Conventions) (secret : Option String) (name volume : String)

theorem volumes_fileTransfer :
    (replication c secret true).volumes =
      (replication c secret false).volumes ++ [⟨stagingVolume, .emptyDir⟩] := by
  cases secret <;> rfl

theorem connectorMounts_fileTransfer :
    connectorMounts c secret true volume =
      connectorMounts c secret false volume ++ [VolumeMount.plain stagingVolume c.stagingDir] := by
  cases secret <;> rfl

theorem volumes_replication_secret (fileTransfer : Bool) :
    (replication c (some name) fileTransfer).volumes =
      insertBefore (·.name = stagingVolume) ⟨secretsVolume, .secret name⟩
        (replication c none fileTransfer).volumes := by
  cases fileTransfer <;> rfl

theorem volumes_reset_secret :
    (reset c (some name)).volumes =
      insertBefore (·.name = stagingVolume) ⟨secretsVolume, .secret name⟩
        (reset c none).volumes := by
  rfl

variable {volume} in
theorem connectorMounts_secret (fileTransfer : Bool) (own : volume ≠ stagingVolume) :
    connectorMounts c (some name) fileTransfer volume =
      insertBefore (·.name = stagingVolume) (secretMount c)
        (connectorMounts c none fileTransfer volume) := by
  cases fileTransfer <;>
    simp [connectorMounts, secretMounts, secretMount, insertBefore, VolumeMount.plain, own]

end VolumeSet

/-! ## Pods -/

namespace Settings

variable {settings settings' : Settings} {kind : RunKind} {request request' : RunRequest}
  {changeMounts : List VolumeMount → List VolumeMount}

theorem overMounts_plannedOrchestrator :
    (settings.plannedOrchestrator kind request).overMounts changeMounts =
      settings.plannedOrchestrator kind request := by
  rfl

/-- The containers of a pod change with the connectors among them. -/
theorem containers_overMounts
    (orchestrator : settings'.plannedOrchestrator kind request' =
      settings.plannedOrchestrator kind request)
    (source : kind = .replication → settings'.plannedSource kind request' =
      (settings.plannedSource kind request).overMounts changeMounts)
    (destination : settings'.plannedDestination kind request' =
      (settings.plannedDestination kind request).overMounts changeMounts) :
    (settings'.plannedSpec kind request').containers =
      (settings.plannedSpec kind request).containers.map (Container.overMounts changeMounts) := by
  have connectors : settings'.plannedConnectors kind request' =
      (settings.plannedConnectors kind request).map (Container.overMounts changeMounts) := by
    cases kind with
    | replication =>
        rw [plannedConnectors, source rfl, destination]
        rfl
    | reset =>
        rw [plannedConnectors, destination]
        rfl
  rw [plannedSpec, plannedSpec, List.map_cons, overMounts_plannedOrchestrator, orchestrator,
    connectors]

variable (settings kind request)

theorem plannedPod_fileTransfer :
    settings.plannedPod .replication (request.withFileTransfer true) =
      (settings.plannedPod .replication (request.withFileTransfer false)).withStaging
        settings.conventions := by
  have mounts := VolumeSet.connectorMounts_fileTransfer settings.conventions
    settings.cluster.connectorSecret
  have containers : (settings.plannedSpec .replication (request.withFileTransfer true)).containers =
      (settings.plannedSpec .replication (request.withFileTransfer false)).containers.map
        (Container.overMounts
          (· ++ [VolumeMount.plain stagingVolume settings.conventions.stagingDir])) := by
    apply containers_overMounts
    case orchestrator => rfl
    case source =>
      intro _
      exact congrArg (settings.plannedContainer .source request.sourceImage
        request.sourceResources · request.sourceEnv _) (mounts sourceVolume)
    case destination =>
      exact congrArg (settings.plannedContainer .destination request.destinationImage
        request.destinationResources · request.destinationEnv _) (mounts destinationVolume)
  have volumes := VolumeSet.volumes_fileTransfer settings.conventions
    settings.cluster.connectorSecret
  have spec : settings.plannedSpec .replication (request.withFileTransfer true) =
      (settings.plannedSpec .replication (request.withFileTransfer false)).overVolumes
        (· ++ [⟨stagingVolume, .emptyDir⟩])
        (· ++ [VolumeMount.plain stagingVolume settings.conventions.stagingDir]) := by
    rw [PodSpec.overVolumes, ← containers, PodSpec.mk.injEq]
    exact ⟨rfl, rfl, rfl, rfl, rfl, rfl, rfl, rfl, rfl, rfl, volumes⟩
  rw [plannedPod, spec]
  rfl

theorem destinationMounts_secret (name : String) :
    ((settings.withSecret (some name)).plannedVolumes kind request).destinationMounts =
      insertBefore (·.name = stagingVolume) (secretMount settings.conventions)
        ((settings.withSecret none).plannedVolumes kind request).destinationMounts := by
  have own : destinationVolume ≠ stagingVolume := by decide
  have mounts (fileTransfer : Bool) :=
    VolumeSet.connectorMounts_secret settings.conventions name fileTransfer own
  cases kind with
  | replication => exact mounts request.fileTransfer
  | reset => exact mounts false

theorem volumes_secret (name : String) :
    ((settings.withSecret (some name)).plannedVolumes kind request).volumes =
      insertBefore (·.name = stagingVolume) ⟨secretsVolume, .secret name⟩
        ((settings.withSecret none).plannedVolumes kind request).volumes := by
  cases kind with
  | replication => exact VolumeSet.volumes_replication_secret _ name request.fileTransfer
  | reset => exact VolumeSet.volumes_reset_secret _ name

theorem plannedPod_secret (name : String) :
    (settings.withSecret (some name)).plannedPod kind request =
      ((settings.withSecret none).plannedPod kind request).withSecret settings.conventions
        name := by
  have containers : ((settings.withSecret (some name)).plannedSpec kind request).containers =
      ((settings.withSecret none).plannedSpec kind request).containers.map
        (Container.overMounts
          (insertBefore (·.name = stagingVolume) (secretMount settings.conventions))) := by
    apply containers_overMounts
    case orchestrator => cases kind <;> rfl
    case source =>
      rintro rfl
      have own : sourceVolume ≠ stagingVolume := by decide
      exact congrArg (settings.plannedContainer .source request.sourceImage
        request.sourceResources · request.sourceEnv _)
        (VolumeSet.connectorMounts_secret settings.conventions name request.fileTransfer own)
    case destination =>
      exact congrArg (settings.plannedContainer .destination request.destinationImage
        request.destinationResources · request.destinationEnv _)
        (settings.destinationMounts_secret kind request name)
  have init : (settings.withSecret (some name)).plannedInit kind request =
      (settings.withSecret none).plannedInit kind request := by
    cases kind <;> rfl
  have spec : (settings.withSecret (some name)).plannedSpec kind request =
      ((settings.withSecret none).plannedSpec kind request).overVolumes
        (insertBefore (·.name = stagingVolume) ⟨secretsVolume, .secret name⟩)
        (insertBefore (·.name = stagingVolume) (secretMount settings.conventions)) := by
    rw [PodSpec.overVolumes, ← containers, PodSpec.mk.injEq]
    exact ⟨rfl, rfl, rfl, congrArg (fun c => [c]) init, rfl, rfl, rfl, rfl, rfl, rfl,
      settings.volumes_secret kind request name⟩
  rw [plannedPod, spec]
  rfl

end Settings

end SyncPods
