import SyncPods.Proofs.BuiltPod

/-!
# Resets are replications without a source

The pod of a reset is the pod of the same request's replication, with the source's container, its
volume and the staging volume taken out and a sidecar that only leaves a marker for the
destination.
-/

namespace SyncPods

/-- The volumes that only runs with a source have. -/
def sourceOnlyVolumes : List String := [sourceVolume, stagingVolume]

/-- Without the mounts of the volumes that only runs with a source have. -/
def Container.withoutSourceMounts (c : Container) : Container :=
  { c with volumeMounts := c.volumeMounts.filter fun mount => mount.name ∉ sourceOnlyVolumes }

/-- The orchestrator with another script; other containers stay as they are. -/
def Container.withSidecar (script : String) (c : Container) : Container :=
  if c.name = Role.orchestrator.name then { c with command := some ["sh", "-c", script] } else c

/-- A pod's specification without the source, its volumes and all mounts of them. The orchestrator
leaves a marker for the destination alone. -/
def PodSpec.withoutSource (conventions : Conventions) (spec : PodSpec) : PodSpec :=
  let script := Script.sidecar conventions [conventions.destinationDir]
  let others := spec.containers.filter fun c => c.name ≠ Role.source.name
  { spec with
    containers := others.map fun c => (c.withoutSourceMounts).withSidecar script
    initContainers := spec.initContainers.map Container.withoutSourceMounts
    volumes := spec.volumes.filter fun volume => volume.name ∉ sourceOnlyVolumes }

def Pod.withoutSource (conventions : Conventions) (pod : Pod) : Pod :=
  { pod with spec := pod.spec.map (PodSpec.withoutSource conventions) }

namespace VolumeSet

variable (conventions : Conventions) (secret : Option String) (fileTransfer : Bool)

theorem volumes_reset :
    (reset conventions secret).volumes =
      (replication conventions secret fileTransfer).volumes.filter
        fun volume => volume.name ∉ sourceOnlyVolumes := by
  cases secret <;> cases fileTransfer <;> rfl

theorem orchestratorMounts_reset :
    (reset conventions secret).orchestratorMounts =
      (replication conventions secret fileTransfer).orchestratorMounts.filter
        fun mount => mount.name ∉ sourceOnlyVolumes := by
  cases secret <;> cases fileTransfer <;> rfl

theorem destinationMounts_reset :
    (reset conventions secret).destinationMounts =
      (replication conventions secret fileTransfer).destinationMounts.filter
        fun mount => mount.name ∉ sourceOnlyVolumes := by
  cases secret <;> cases fileTransfer <;> rfl

end VolumeSet

namespace Settings

variable (settings : Settings) (request : RunRequest)

theorem plannedInit_reset :
    settings.plannedInit .reset request =
      (settings.plannedInit .replication request).withoutSourceMounts := by
  have mounts := VolumeSet.orchestratorMounts_reset settings.conventions
    settings.cluster.connectorSecret request.fileTransfer
  exact congrArg (settings.plannedContainer .init settings.cluster.initImage
    request.orchestratorResources · _ none) mounts

theorem plannedDestination_reset :
    settings.plannedDestination .reset request =
      (settings.plannedDestination .replication request).withoutSourceMounts := by
  have mounts := VolumeSet.destinationMounts_reset settings.conventions
    settings.cluster.connectorSecret request.fileTransfer
  exact congrArg (settings.plannedContainer .destination request.destinationImage
    request.destinationResources · request.destinationEnv _) mounts

theorem plannedOrchestrator_reset :
    settings.plannedOrchestrator .reset request =
      (settings.plannedOrchestrator .replication request).withoutSourceMounts.withSidecar
        (Script.sidecar settings.conventions [settings.conventions.destinationDir]) := by
  rfl

/-- The script of a container other than the orchestrator stays. -/
theorem withSidecar_plannedDestination (script : String) :
    (settings.plannedDestination .replication request).withoutSourceMounts.withSidecar script =
      (settings.plannedDestination .replication request).withoutSourceMounts := by
  rfl

theorem containers_reset :
    (settings.plannedSpec .reset request).containers =
      ((settings.plannedSpec .replication request).withoutSource
        settings.conventions).containers := by
  have others : (settings.plannedSpec .replication request).containers.filter
        (fun c => c.name ≠ Role.source.name) =
      [settings.plannedOrchestrator .replication request,
        settings.plannedDestination .replication request] := by
    rfl
  simp only [PodSpec.withoutSource, others, List.map_cons, List.map_nil]
  rw [withSidecar_plannedDestination, ← plannedOrchestrator_reset, ← plannedDestination_reset]
  rfl

theorem plannedSpec_reset :
    settings.plannedSpec .reset request =
      (settings.plannedSpec .replication request).withoutSource settings.conventions := by
  have volumes : (settings.plannedSpec .reset request).volumes =
      (settings.plannedSpec .replication request).volumes.filter
        fun volume => volume.name ∉ sourceOnlyVolumes :=
    VolumeSet.volumes_reset settings.conventions settings.cluster.connectorSecret
      request.fileTransfer
  have init : (settings.plannedSpec .reset request).initContainers =
      (settings.plannedSpec .replication request).initContainers.map
        Container.withoutSourceMounts :=
    congrArg (fun c => [c]) (settings.plannedInit_reset request)
  rw [plannedSpec, PodSpec.withoutSource, PodSpec.mk.injEq]
  exact ⟨rfl, settings.containers_reset request, rfl, init, rfl, rfl, rfl, rfl, rfl, rfl, volumes⟩

theorem plannedPod_reset :
    settings.plannedPod .reset request =
      (settings.plannedPod .replication request).withoutSource settings.conventions := by
  rw [plannedPod, plannedSpec_reset]
  rfl

/-- What a reset checks is checked in the same order by a replication. -/
theorem faults_reset_sublist :
    (settings.faults .reset request).Sublist (settings.faults .replication request) := by
  have images : (imageFaults .reset request).Sublist (imageFaults .replication request) :=
    ((List.nil_sublist _).cons_cons _).append_right _
  have quantities : (quantityFaults .reset request).Sublist
      (quantityFaults .replication request) :=
    ((List.nil_sublist _).cons_cons _).append_right _
  exact (images.append (quantities.cons_cons settings.schedulerFault)).append_right _

/-- If a replication can be built so can the reset, and its pod is the replication's without the
source. -/
theorem buildPod_reset_of_replication {settings : Settings} {request : RunRequest} {pod : Pod}
    (built : settings.buildPod .replication request = .ok pod) :
    settings.buildPod .reset request = .ok (pod.withoutSource settings.conventions) := by
  obtain ⟨passed, rfl⟩ := buildPod_eq_ok_iff.mp built
  rw [firstFault_eq_none_iff] at passed
  refine buildPod_eq_ok_iff.mpr ⟨?_, settings.plannedPod_reset request⟩
  rw [firstFault_eq_none_iff]
  intro fault member
  exact passed fault ((settings.faults_reset_sublist request).subset member)

theorem buildPod_reset_of_replication_sample :
    Sample.settings.buildPod .replication Sample.request =
        .ok (Sample.settings.plannedPod .replication Sample.request) ∧
      Sample.settings.buildPod .reset Sample.request =
        .ok ((Sample.settings.plannedPod .replication Sample.request).withoutSource
          Sample.settings.conventions) :=
  ⟨Sample.built .replication, buildPod_reset_of_replication (Sample.built .replication)⟩

end Settings

end SyncPods
