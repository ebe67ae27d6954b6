import SyncPods.Manifest.Container
import SyncPods.Json.Writer

/-!
# Pods

A pod as it is handed to a cluster, and its manifest.
-/

namespace SyncPods

open Json

/-- A taint of nodes that a pod bears. -/
structure Toleration where
  key : Option String
  operator : Option String
  value : Option String
  effect : Option String
deriving DecidableEq, Repr

def Toleration.json (t : Toleration) : Value :=
  .record [("effect", t.effect.map .string), ("key", t.key.map .string),
    ("operator", t.operator.map .string), ("value", t.value.map .string)]

structure PodMetadata where
  name : Option String
  labels : Option (Dict String)
  annotations : Option (Dict String)
deriving DecidableEq

def PodMetadata.json (m : PodMetadata) : Value :=
  .record [("annotations", m.annotations.map .ofDict), ("labels", m.labels.map .ofDict),
    ("name", m.name.map .string)]

structure PodSpec where
  automountServiceAccountToken : Bool
  containers : List Container
  imagePullSecrets : List String
  initContainers : List Container
  nodeSelector : Dict String
  restartPolicy : String
  schedulerName : String
  securityContext : PodSecurityContext
  serviceAccountName : Option String
  tolerations : List Toleration
  volumes : List Volume
deriving DecidableEq

def PodSpec.json (s : PodSpec) : Value :=
  .record [("automountServiceAccountToken", some (.bool s.automountServiceAccountToken)),
    ("containers", some (.array (s.containers.map Container.json))),
    ("imagePullSecrets",
      some (.array (s.imagePullSecrets.map fun name => .object [("name", .string name)]))),
    ("initContainers", some (.array (s.initContainers.map Container.json))),
    ("nodeSelector", some (.ofDict s.nodeSelector)),
    ("restartPolicy", some (.string s.restartPolicy)),
    ("schedulerName", some (.string s.schedulerName)),
    ("securityContext", some s.securityContext.json),
    ("serviceAccountName", s.serviceAccountName.map .string),
    ("tolerations", some (.array (s.tolerations.map Toleration.json))),
    ("volumes", some (.array (s.volumes.map Volume.json)))]

structure Pod where
  metadata : PodMetadata
  spec : Option PodSpec
deriving DecidableEq

namespace Pod

def empty : Pod := ⟨⟨none, none, none⟩, none⟩

instance : Inhabited Pod := ⟨empty⟩

def json (p : Pod) : Value :=
  .record [("apiVersion", some (.string "v1")), ("kind", some (.string "Pod")),
    ("metadata", some p.metadata.json), ("spec", p.spec.map PodSpec.json)]

/-- The manifest of a pod, with a line for each of its parts. -/
def manifest (p : Pod) : String := p.json.pretty

end Pod

end SyncPods
