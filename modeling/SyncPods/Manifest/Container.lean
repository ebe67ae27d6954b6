import SyncPods.Manifest.Volume

/-!
# Containers

A container of a pod with its resource requirements and its security context.
-/

namespace SyncPods

open Json

/-- Requested and limited quantities by resource. A side without any quantity is none. -/
structure ResourceRequirements where
  limits : Option (Dict String)
  requests : Option (Dict String)
deriving DecidableEq

def ResourceRequirements.json (r : ResourceRequirements) : Value :=
  .record [("limits", r.limits.map .ofDict), ("requests", r.requests.map .ofDict)]

structure SeccompProfile where
  type : String
deriving DecidableEq, Repr

def SeccompProfile.json (p : SeccompProfile) : Value := .object [("type", .string p.type)]

/-- What the processes of one container may do. -/
structure SecurityContext where
  allowPrivilegeEscalation : Bool
  droppedCapabilities : List String
  runAsGroup : Int
  runAsNonRoot : Bool
  runAsUser : Int
  seccompProfile : SeccompProfile
deriving DecidableEq, Repr

def SecurityContext.json (c : SecurityContext) : Value :=
  .object [("allowPrivilegeEscalation", .bool c.allowPrivilegeEscalation),
    ("capabilities", .object [("drop", .ofStrings c.droppedCapabilities)]),
    ("runAsGroup", .ofInt c.runAsGroup), ("runAsNonRoot", .bool c.runAsNonRoot),
    ("runAsUser", .ofInt c.runAsUser), ("seccompProfile", c.seccompProfile.json)]

/-- What holds for all containers of a pod. -/
structure PodSecurityContext where
  fsGroup : Int
  runAsGroup : Int
  runAsNonRoot : Bool
  runAsUser : Int
  seccompProfile : SeccompProfile
deriving DecidableEq, Repr

def PodSecurityContext.json (c : PodSecurityContext) : Value :=
  .object [("fsGroup", .ofInt c.fsGroup), ("runAsGroup", .ofInt c.runAsGroup),
    ("runAsNonRoot", .bool c.runAsNonRoot), ("runAsUser", .ofInt c.runAsUser),
    ("seccompProfile", c.seccompProfile.json)]

/-- A container. Without a command it runs what its image says. -/
structure Container where
  command : Option (List String)
  env : List EnvVar
  image : String
  imagePullPolicy : Option String
  name : String
  resources : Option ResourceRequirements
  securityContext : SecurityContext
  volumeMounts : List VolumeMount
deriving DecidableEq

def Container.json (c : Container) : Value :=
  .record [("command", c.command.map .ofStrings), ("env", some (.array (c.env.map EnvVar.json))),
    ("image", some (.string c.image)), ("imagePullPolicy", c.imagePullPolicy.map .string),
    ("name", some (.string c.name)), ("resources", c.resources.map ResourceRequirements.json),
    ("securityContext", some c.securityContext.json),
    ("volumeMounts", some (.array (c.volumeMounts.map VolumeMount.json)))]

end SyncPods
