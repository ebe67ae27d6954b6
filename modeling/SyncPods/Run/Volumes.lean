import SyncPods.Manifest.Volume
import SyncPods.Run.Request
import SyncPods.Settings.Conventions

/-!
# Volumes of a run

Every connector has a volume that the orchestrator mounts too. A connector may also have a secret
and, where files are handed over, a volume that both connectors share.
-/

namespace SyncPods

/-- The volume that the init container fills for the orchestrator. -/
def configVolume : String := "config"

/-- The volume of the source and the orchestrator. -/
def sourceVolume : String := "source"

/-- The volume of the destination and the orchestrator. -/
def destinationVolume : String := "destination"

/-- The volume of both connectors. -/
def stagingVolume : String := "staging"

/-- The volume with the connectors' credentials. -/
def secretsVolume : String := "connector-secrets"

/-- The volumes of a pod, and what the containers of each role mount of them. -/
structure VolumeSet where
  volumes : List Volume
  orchestratorMounts : List VolumeMount
  sourceMounts : List VolumeMount
  destinationMounts : List VolumeMount
deriving DecidableEq, Repr

namespace VolumeSet

def emptyDir (name : String) : Volume := ⟨name, .emptyDir⟩

/-- The volume of the secret, if there is one. -/
def secretVolumes (secret : Option String) : List Volume :=
  match secret with
  | some name => [⟨secretsVolume, .secret name⟩]
  | none => []

/-- A connector's mount of the secret, if there is one. -/
def secretMounts (c : Conventions) (secret : Option String) : List VolumeMount :=
  match secret with
  | some _ => [{ VolumeMount.plain secretsVolume c.secretsDir with readOnly := some true }]
  | none => []

def replication (c : Conventions) (secret : Option String) (fileTransfer : Bool) : VolumeSet :=
  let staging := if fileTransfer then [emptyDir stagingVolume] else []
  let stagingMounts := if fileTransfer then [VolumeMount.plain stagingVolume c.stagingDir] else []
  let extraMounts := secretMounts c secret ++ stagingMounts
  { volumes := [emptyDir configVolume, emptyDir sourceVolume, emptyDir destinationVolume] ++
      secretVolumes secret ++ staging
    orchestratorMounts :=
      [VolumeMount.plain configVolume c.configDir, VolumeMount.plain sourceVolume c.sourceDir,
        VolumeMount.plain destinationVolume c.destinationDir]
    sourceMounts := VolumeMount.plain sourceVolume c.configDir :: extraMounts
    destinationMounts := VolumeMount.plain destinationVolume c.configDir :: extraMounts }

/-- The volumes of a reset, which has no source and hands over no files. -/
def reset (c : Conventions) (secret : Option String) : VolumeSet where
  volumes := [emptyDir configVolume, emptyDir destinationVolume] ++ secretVolumes secret
  orchestratorMounts :=
    [VolumeMount.plain configVolume c.configDir,
      VolumeMount.plain destinationVolume c.destinationDir]
  sourceMounts := []
  destinationMounts :=
    VolumeMount.plain destinationVolume c.configDir :: secretMounts c secret

end VolumeSet

end SyncPods
