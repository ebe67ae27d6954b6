import SyncPods.Proofs.SharedFiles

/-!
# Well-formed pods

A cluster refuses a pod whose containers, volumes and mounts do not fit together. Pods that are
built under valid settings with distinct directories do fit, and keep to what the settings allow
their containers.
-/

namespace SyncPods

/-- All containers of a pod, those that run first in front. -/
def PodSpec.allContainers (spec : PodSpec) : List Container :=
  spec.initContainers ++ spec.containers

/-- The members of a volume's manifest that say what it holds: all but its name. -/
def Volume.writtenSources (volume : Volume) : List String :=
  match volume.json with
  | .object members => (members.map (·.1)).filter (· ≠ "name")
  | _ => []

/-- The parts of a pod fit together. -/
structure PodSpec.WellFormed (spec : PodSpec) : Prop where
  distinctContainers : (spec.allContainers.map (·.name)).Nodup
  imagesGiven : ∀ c ∈ spec.allContainers, Text.trim c.image ≠ ""
  distinctVolumes : (spec.volumes.map (·.name)).Nodup
  oneSource : ∀ volume ∈ spec.volumes,
    volume.writtenSources = ["emptyDir"] ∨ volume.writtenSources = ["secret"]
  mountsDeclared : ∀ c ∈ spec.allContainers, ∀ mount ∈ c.volumeMounts,
    ∃ volume ∈ spec.volumes, volume.name = mount.name
  volumesMounted : ∀ volume ∈ spec.volumes,
    ∃ c ∈ spec.allContainers, ∃ mount ∈ c.volumeMounts, mount.name = volume.name
  distinctPaths : ∀ c ∈ spec.allContainers, (c.volumeMounts.map (·.mountPath)).Nodup

/-- What a container may do: nothing that takes privileges, as the configured user and group. -/
structure SecurityContext.Confined (runAs : RunAs) (context : SecurityContext) : Prop where
  noEscalation : context.allowPrivilegeEscalation = false
  nonRoot : context.runAsNonRoot = true
  dropsAll : context.droppedCapabilities = ["ALL"]
  user : context.runAsUser = runAs.user
  group : context.runAsGroup = runAs.group

/-- A pod keeps to the settings of its cluster. -/
structure PodSpec.KeepsTo (cluster : ClusterSettings) (spec : PodSpec) : Prop where
  pullSecrets : spec.imagePullSecrets = cluster.imagePullSecrets
  secretsNamed : ∀ name ∈ spec.imagePullSecrets, Text.trim name ≠ ""
  oneContext : ∃ context : SecurityContext, context.Confined cluster.runAs ∧
    ∀ c ∈ spec.allContainers, c.securityContext = context
  neverRestarts : spec.restartPolicy = "Never"
  noToken : spec.automountServiceAccountToken = false

/-! ## Volumes and their mounts -/

theorem Volume.writtenSources_cases (volume : Volume) :
    volume.writtenSources = ["emptyDir"] ∨ volume.writtenSources = ["secret"] := by
  obtain ⟨name, source⟩ := volume
  cases source with
  | emptyDir => exact Or.inl rfl
  | secret secretName => exact Or.inr rfl

namespace VolumeSet

/-- All that is mounted of a set of volumes by the containers of a run with a source. -/
def allMounts (set : VolumeSet) : List VolumeMount :=
  set.orchestratorMounts ++ set.sourceMounts ++ set.destinationMounts

/-- The volumes of a set and the mounts of them fit together. The orchestrator and the destination,
which every run has, mount all there is. -/
structure Fits (set : VolumeSet) : Prop where
  distinctVolumes : (set.volumes.map (·.name)).Nodup
  declared : ∀ mount ∈ set.allMounts, mount.name ∈ set.volumes.map (·.name)
  mounted : ∀ name ∈ set.volumes.map (·.name),
    name ∈ (set.orchestratorMounts ++ set.destinationMounts).map (·.name)
  orchestratorPaths : (set.orchestratorMounts.map (·.mountPath)).Nodup
  sourcePaths : (set.sourceMounts.map (·.mountPath)).Nodup
  destinationPaths : (set.destinationMounts.map (·.mountPath)).Nodup

variable {c : Conventions} (secret : Option String)

theorem volumeNames_replication (fileTransfer : Bool) :
    (replication c secret fileTransfer).volumes.map (·.name) =
      [configVolume, sourceVolume, destinationVolume] ++
        (if secret.isSome then [secretsVolume] else []) ++
        (if fileTransfer then [stagingVolume] else []) := by
  cases secret <;> cases fileTransfer <;> rfl

theorem volumeNames_reset :
    (reset c secret).volumes.map (·.name) =
      [configVolume, destinationVolume] ++ if secret.isSome then [secretsVolume] else [] := by
  cases secret <;> rfl

theorem connectorPaths_sublist (fileTransfer : Bool) (volume : String) :
    List.Sublist ((connectorMounts c secret fileTransfer volume).map (·.mountPath))
      [c.configDir, c.secretsDir, c.stagingDir] := by
  cases secret <;> cases fileTransfer <;> simp [connectorMounts, secretMounts, VolumeMount.plain]

theorem nodup_connectorPaths (distinct : c.DistinctDirs) (fileTransfer : Bool)
    (volume : String) :
    ((connectorMounts c secret fileTransfer volume).map (·.mountPath)).Nodup := by
  have picked : [c.configDir, c.stagingDir, c.secretsDir].Nodup :=
    distinct.sublist (by simp)
  have swapped : [c.configDir, c.stagingDir, c.secretsDir].Perm
      [c.configDir, c.secretsDir, c.stagingDir] :=
    (List.Perm.swap c.secretsDir c.stagingDir []).cons c.configDir
  exact (swapped.nodup picked).sublist (connectorPaths_sublist secret fileTransfer volume)

theorem fits_replication (distinct : c.DistinctDirs) (fileTransfer : Bool) :
    (replication c secret fileTransfer).Fits where
  distinctVolumes := by
    rw [volumeNames_replication]
    cases secret.isSome <;> cases fileTransfer <;> decide
  declared := by
    rw [volumeNames_replication]
    cases secret <;> cases fileTransfer <;>
      simp [allMounts, replication, secretMounts, VolumeMount.plain]
  mounted := by
    rw [volumeNames_replication]
    cases secret <;> cases fileTransfer <;>
      simp [replication, secretMounts, VolumeMount.plain]
  orchestratorPaths := by
    have dirs : [c.configDir, c.sourceDir, c.destinationDir].Nodup := distinct.sublist (by simp)
    exact dirs
  sourcePaths := nodup_connectorPaths secret distinct fileTransfer sourceVolume
  destinationPaths := nodup_connectorPaths secret distinct fileTransfer destinationVolume

theorem fits_reset (distinct : c.DistinctDirs) : (reset c secret).Fits where
  distinctVolumes := by
    rw [volumeNames_reset]
    cases secret.isSome <;> decide
  declared := by
    rw [volumeNames_reset]
    cases secret <;> simp [allMounts, reset, secretMounts, VolumeMount.plain]
  mounted := by
    rw [volumeNames_reset]
    cases secret <;> simp [reset, secretMounts, VolumeMount.plain]
  orchestratorPaths := by
    have dirs : [c.configDir, c.destinationDir].Nodup := distinct.sublist (by simp)
    exact dirs
  sourcePaths := List.nodup_nil
  destinationPaths := by
    rw [destinationMounts_reset_eq]
    exact nodup_connectorPaths secret distinct false destinationVolume

end VolumeSet

/-! ## Settings that are not invalid -/

theorem ClusterSettings.given_of_valid {cluster : ClusterSettings}
    (valid : cluster.invalid? = none) :
    Text.trim cluster.initImage ≠ "" ∧ ∀ name ∈ cluster.imagePullSecrets, Text.trim name ≠ "" := by
  simp only [ne_eq, trim_eq_empty_iff]
  rw [ClusterSettings.invalid?] at valid
  split at valid
  · cases valid
  split at valid
  · cases valid
  next imageGiven =>
    split at valid
    · cases valid
    next noneBlank =>
      refine ⟨imageGiven, ?_⟩
      intro name member blank
      exact noneBlank (List.any_eq_true.mpr ⟨name, member, blank⟩)

namespace Settings

variable {settings : Settings} {kind : RunKind} {request : RunRequest}

/-! ## Containers -/

theorem fits_plannedVolumes (distinct : settings.conventions.DistinctDirs) :
    (settings.plannedVolumes kind request).Fits := by
  cases kind with
  | replication => exact VolumeSet.fits_replication _ distinct request.fileTransfer
  | reset => exact VolumeSet.fits_reset _ distinct

/-- What holds of the containers of each role holds of all containers. -/
theorem forall_allContainers {property : Container → Prop}
    (init : property (settings.plannedInit kind request))
    (orchestrator : property (settings.plannedOrchestrator kind request))
    (source : kind = .replication → property (settings.plannedSource kind request))
    (destination : property (settings.plannedDestination kind request)) :
    ∀ c ∈ (settings.plannedSpec kind request).allContainers, property c := by
  intro c member
  have role : c = settings.plannedInit kind request ∨
      c = settings.plannedOrchestrator kind request ∨
      c ∈ kind.ifSource [settings.plannedSource kind request] ∨
      c = settings.plannedDestination kind request := by
    simpa [PodSpec.allContainers, plannedSpec, plannedConnectors] using member
  rcases role with rfl | rfl | inSource | rfl
  · exact init
  · exact orchestrator
  · cases kind with
    | replication =>
        obtain rfl := List.mem_singleton.mp inSource
        exact source rfl
    | reset => cases inSource
  · exact destination

theorem images_given (valid : settings.invalid? = none)
    (passed : firstFault (settings.faults kind request) = none) :
    ∀ c ∈ (settings.plannedSpec kind request).allContainers, Text.trim c.image ≠ "" := by
  have cluster : settings.cluster.invalid? = none := (Option.or_eq_none_iff.mp valid).1
  rw [firstFault_eq_none_iff] at passed
  have given (role : Role) {image : String} (checked : imageFault role image ∈
      imageFaults kind request) : Text.trim image ≠ "" := by
    apply imageFault_eq_none_iff.mp
    exact passed _ (List.mem_append_left _ (List.mem_append_left _ checked))
  apply forall_allContainers
  · exact (ClusterSettings.given_of_valid cluster).1
  · exact given .orchestrator (by simp [imageFaults, plannedOrchestrator, plannedContainer])
  · rintro rfl
    exact given .source (by simp [imageFaults, plannedSource, plannedContainer])
  · exact given .destination (by simp [imageFaults, plannedDestination, plannedContainer])

theorem containerNames_plannedSpec :
    (settings.plannedSpec kind request).allContainers.map (·.name) =
      [Role.init.name, Role.orchestrator.name] ++ kind.ifSource [Role.source.name] ++
        [Role.destination.name] := by
  cases kind <;> rfl

theorem exists_container_of_mount {mount : VolumeMount}
    (mounted : mount ∈ (settings.plannedVolumes kind request).orchestratorMounts ++
      (settings.plannedVolumes kind request).destinationMounts) :
    ∃ c ∈ (settings.plannedSpec kind request).allContainers, mount ∈ c.volumeMounts := by
  rcases List.mem_append.mp mounted with byOrchestrator | byDestination
  · refine ⟨settings.plannedOrchestrator kind request, ?_, byOrchestrator⟩
    simp [PodSpec.allContainers, plannedSpec]
  · refine ⟨settings.plannedDestination kind request, ?_, byDestination⟩
    simp [PodSpec.allContainers, plannedSpec, plannedConnectors]

theorem wellFormed_plannedSpec (valid : settings.invalid? = none)
    (distinct : settings.conventions.DistinctDirs)
    (passed : firstFault (settings.faults kind request) = none) :
    (settings.plannedSpec kind request).WellFormed := by
  have fits : (settings.plannedVolumes kind request).Fits := fits_plannedVolumes distinct
  have declared {mount : VolumeMount}
      (mounted : mount ∈ (settings.plannedVolumes kind request).allMounts) :
      ∃ volume ∈ (settings.plannedSpec kind request).volumes, volume.name = mount.name :=
    List.mem_map.mp (fits.declared mount mounted)
  constructor
  case distinctContainers =>
    rw [containerNames_plannedSpec]
    cases kind <;> decide
  case imagesGiven => exact images_given valid passed
  case distinctVolumes => exact fits.distinctVolumes
  case oneSource =>
    intro volume _
    exact volume.writtenSources_cases
  case mountsDeclared =>
    apply forall_allContainers
    · intro mount member
      exact declared (List.mem_append_left _ (List.mem_append_left _ member))
    · intro mount member
      exact declared (List.mem_append_left _ (List.mem_append_left _ member))
    · intro _ mount member
      exact declared (List.mem_append_left _ (List.mem_append_right _ member))
    · intro mount member
      exact declared (List.mem_append_right _ member)
  case volumesMounted =>
    intro volume member
    obtain ⟨mount, mounted, same⟩ :=
      List.mem_map.mp (fits.mounted volume.name (List.mem_map_of_mem member))
    obtain ⟨c, inPod, inContainer⟩ := exists_container_of_mount mounted
    exact ⟨c, inPod, mount, inContainer, same⟩
  case distinctPaths =>
    apply forall_allContainers
    · exact fits.orchestratorPaths
    · exact fits.orchestratorPaths
    · intro _
      exact fits.sourcePaths
    · exact fits.destinationPaths

theorem keepsTo_plannedSpec (valid : settings.invalid? = none) :
    (settings.plannedSpec kind request).KeepsTo settings.cluster where
  pullSecrets := rfl
  secretsNamed :=
    (ClusterSettings.given_of_valid (Option.or_eq_none_iff.mp valid).1).2
  oneContext := by
    refine ⟨settings.cluster.runAs.containerContext, ⟨rfl, rfl, rfl, rfl, rfl⟩, ?_⟩
    apply forall_allContainers
    · rfl
    · rfl
    · intro _
      rfl
    · rfl
  neverRestarts := rfl
  noToken := rfl

/-- Pods that are built under valid settings with distinct directories are well formed and keep to
the settings of the cluster. -/
theorem buildPod_wellFormed {pod : Pod} (valid : settings.invalid? = none)
    (distinct : settings.conventions.DistinctDirs)
    (built : settings.buildPod kind request = .ok pod) :
    ∃ spec, pod.spec = some spec ∧ spec.WellFormed ∧ spec.KeepsTo settings.cluster := by
  obtain ⟨passed, rfl⟩ := buildPod_eq_ok_iff.mp built
  exact ⟨settings.plannedSpec kind request, rfl, wellFormed_plannedSpec valid distinct passed,
    keepsTo_plannedSpec valid⟩

theorem buildPod_wellFormed_sample :
    Sample.settings.invalid? = none ∧ Sample.settings.conventions.DistinctDirs ∧
      ∃ spec, (Sample.settings.plannedPod .replication Sample.request).spec = some spec ∧
        spec.WellFormed ∧ spec.KeepsTo Sample.settings.cluster := by
  have valid : Sample.settings.invalid? = none := by decide
  have distinct : Sample.settings.conventions.DistinctDirs := by decide
  exact ⟨valid, distinct, buildPod_wellFormed valid distinct (Sample.built .replication)⟩

end Settings

end SyncPods
