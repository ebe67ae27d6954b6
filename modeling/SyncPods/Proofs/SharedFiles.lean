import Mathlib.Data.List.Forall2
import SyncPods.Proofs.BuiltPod

/-!
# Files between containers

The orchestrator and each connector meet in files at the root of the connector's volume. The
connector has the volume at the config directory, the orchestrator at a directory of its own, and
each of them goes by its own directory in its script. The main statement ties both directories and
both scripts together for every connector of a pod.
-/

namespace SyncPods

/-- No two of the directories that volumes are mounted at are the same. -/
def Conventions.DistinctDirs (c : Conventions) : Prop :=
  [c.configDir, c.sourceDir, c.destinationDir, c.stagingDir, c.secretsDir].Nodup

instance (c : Conventions) : Decidable c.DistinctDirs :=
  inferInstanceAs (Decidable (List.Nodup _))

/-- A connector has the volume, whole and writable, at the config directory and no other one there.
The orchestrator has the same volume, whole and writable, at `dir` and nowhere else. -/
structure SharesVolume (c : Conventions) (orchestrator connector : Container)
    (volume dir : String) : Prop where
  inConnector :
    connector.volumeMounts.filter (fun mount => mount.mountPath = c.configDir) =
      [VolumeMount.plain volume c.configDir]
  inOrchestrator :
    orchestrator.volumeMounts.filter (fun mount => mount.name = volume) =
      [VolumeMount.plain volume dir]

/-- A container runs a connector whose output, marker and exit code are files in a directory. -/
def RunsConnectorIn (c : Conventions) (connector : Container) (dir : String) : Prop :=
  ∃ operation arguments script,
    connector.command = some ["sh", "-c", script] ∧
      script = Script.connector c operation arguments ∧
      script =
        Script.entrypointGuard c.entrypointVariable ++
          Script.launch c.entrypointVariable operation arguments
            (dir ++ "/" ++ c.jobOutputFile) ++
          Script.watchdog (dir ++ "/" ++ c.terminationMarker) ++
          Script.handOver (dir ++ "/" ++ c.exitCodeFile)

/-- A connector and the orchestrator meet in the files of a volume, which the orchestrator has at
`dir`. -/
def MeetsIn (c : Conventions) (orchestrator connector : Container) (dir : String) : Prop :=
  RunsConnectorIn c connector c.configDir ∧
    ∃ volume, SharesVolume c orchestrator connector volume dir

namespace VolumeSet

/-- What a connector mounts: its own volume, the secret and the files to hand over. -/
def connectorMounts (c : Conventions) (secret : Option String) (fileTransfer : Bool)
    (volume : String) : List VolumeMount :=
  VolumeMount.plain volume c.configDir :: (secretMounts c secret ++
    if fileTransfer then [VolumeMount.plain stagingVolume c.stagingDir] else [])

variable {c : Conventions} (secret : Option String)

/-- Of what a connector mounts only its own volume is at the config directory: secrets and files to
hand over are elsewhere. -/
theorem filter_configDir (distinct : c.DistinctDirs) (volume : String) (fileTransfer : Bool) :
    (connectorMounts c secret fileTransfer volume).filter
      (fun mount => mount.mountPath = c.configDir) = [VolumeMount.plain volume c.configDir] := by
  have secretsElsewhere : c.secretsDir ≠ c.configDir := by
    intro same
    simp [Conventions.DistinctDirs, same] at distinct
  have stagingElsewhere : c.stagingDir ≠ c.configDir := by
    intro same
    simp [Conventions.DistinctDirs, same] at distinct
  cases secret <;> cases fileTransfer <;>
    simp [connectorMounts, secretMounts, VolumeMount.plain, secretsElsewhere, stagingElsewhere]

theorem destinationMounts_reset_eq :
    (reset c secret).destinationMounts = (replication c secret false).destinationMounts := by
  cases secret <;> rfl

end VolumeSet

theorem runsConnectorIn_configDir {c : Conventions} {connector : Container}
    {operation arguments : String}
    (command : connector.command = some ["sh", "-c", Script.connector c operation arguments]) :
    RunsConnectorIn c connector c.configDir :=
  ⟨operation, arguments, Script.connector c operation arguments, command, rfl, rfl⟩

namespace Settings

variable (settings : Settings) (request : RunRequest)

theorem source_meetsIn (distinct : settings.conventions.DistinctDirs) :
    MeetsIn settings.conventions (settings.plannedOrchestrator .replication request)
      (settings.plannedSource .replication request) settings.conventions.sourceDir := by
  refine ⟨runsConnectorIn_configDir rfl, sourceVolume, ?_, rfl⟩
  exact VolumeSet.filter_configDir settings.cluster.connectorSecret distinct sourceVolume
    request.fileTransfer

theorem destination_meetsIn (distinct : settings.conventions.DistinctDirs) (kind : RunKind) :
    MeetsIn settings.conventions (settings.plannedOrchestrator kind request)
      (settings.plannedDestination kind request) settings.conventions.destinationDir := by
  refine ⟨runsConnectorIn_configDir rfl, destinationVolume, ?_, ?_⟩
  · cases kind with
    | replication =>
        exact VolumeSet.filter_configDir settings.cluster.connectorSecret distinct
          destinationVolume request.fileTransfer
    | reset =>
        have mounts : (settings.plannedDestination .reset request).volumeMounts = _ :=
          VolumeSet.destinationMounts_reset_eq settings.cluster.connectorSecret
        rw [mounts]
        exact VolumeSet.filter_configDir settings.cluster.connectorSecret distinct
          destinationVolume false
  · cases kind <;> rfl

/-- The directories at which the orchestrator has the connectors' volumes, in the order of the
connectors. -/
def connectorDirs (c : Conventions) (kind : RunKind) : List String :=
  kind.ifSource [c.sourceDir] ++ [c.destinationDir]

theorem markerDirs_plannedVolumes (kind : RunKind) :
    Assembly.markerDirs (settings.plannedVolumes kind request).orchestratorMounts =
      connectorDirs settings.conventions kind := by
  cases kind <;> rfl

/-- In every pod each connector meets the orchestrator in the files of a volume, and the sidecar
leaves a marker in the volumes in which the connectors look for it, in the order of the connectors,
and nowhere else. -/
theorem connectors_meet_orchestrator {settings : Settings} {kind : RunKind} {request : RunRequest}
    {pod : Pod} (distinct : settings.conventions.DistinctDirs)
    (built : settings.buildPod kind request = .ok pod) :
    ∃ spec orchestrator connectors dirs,
      pod.spec = some spec ∧
        spec.containers = orchestrator :: connectors ∧
        orchestrator.name = Role.orchestrator.name ∧
        connectors.map (·.name) = kind.ifSource [Role.source.name] ++ [Role.destination.name] ∧
        List.Forall₂ (MeetsIn settings.conventions orchestrator) connectors dirs ∧
        orchestrator.command = some ["sh", "-c", Script.sidecar settings.conventions dirs] := by
  obtain ⟨-, rfl⟩ := buildPod_eq_ok_iff.mp built
  refine ⟨settings.plannedSpec kind request, settings.plannedOrchestrator kind request,
    settings.plannedConnectors kind request, connectorDirs settings.conventions kind,
    rfl, rfl, rfl, ?_, ?_, ?_⟩
  · cases kind <;> rfl
  · have last := settings.destination_meetsIn request distinct kind
    cases kind with
    | replication => exact .cons (settings.source_meetsIn request distinct) (.cons last .nil)
    | reset => exact .cons last .nil
  · rw [← settings.markerDirs_plannedVolumes request]
    rfl

theorem connectors_meet_orchestrator_sample :
    Sample.settings.conventions.DistinctDirs ∧
      Sample.settings.buildPod .replication Sample.request =
        .ok (Sample.settings.plannedPod .replication Sample.request) ∧
      ∃ spec orchestrator connectors dirs,
        (Sample.settings.plannedPod .replication Sample.request).spec = some spec ∧
          spec.containers = orchestrator :: connectors ∧
          orchestrator.name = Role.orchestrator.name ∧
          connectors.map (·.name) = [Role.source.name] ++ [Role.destination.name] ∧
          List.Forall₂ (MeetsIn Sample.settings.conventions orchestrator) connectors dirs ∧
          orchestrator.command =
            some ["sh", "-c", Script.sidecar Sample.settings.conventions dirs] :=
  ⟨by decide, Sample.built .replication,
    connectors_meet_orchestrator (by decide) (Sample.built .replication)⟩

end Settings

end SyncPods
