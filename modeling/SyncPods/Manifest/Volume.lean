import SyncPods.Manifest.Env

/-!
# Volumes and their mounts
-/

namespace SyncPods

open Json

/-- What a volume holds when the pod starts. -/
inductive VolumeSource where
  | emptyDir
  | secret (name : String)
deriving DecidableEq, Repr, Inhabited

structure Volume where
  name : String
  source : VolumeSource
deriving DecidableEq, Repr, Inhabited

def VolumeSource.member : VolumeSource → String × Value
  | .emptyDir => ("emptyDir", .object [])
  | .secret name => ("secret", .object [("secretName", .string name)])

def Volume.json (v : Volume) : Value :=
  .ofMembers [("name", .string v.name), v.source.member]

/-- A volume as a container sees it. -/
structure VolumeMount where
  mountPath : String
  mountPropagation : Option String
  name : String
  readOnly : Option Bool
  recursiveReadOnly : Option String
  subPath : Option String
  subPathExpr : Option String
deriving DecidableEq, Repr, Inhabited

namespace VolumeMount

/-- A volume mounted whole and writable. -/
def plain (name path : String) : VolumeMount where
  mountPath := path
  mountPropagation := none
  name
  readOnly := none
  recursiveReadOnly := none
  subPath := none
  subPathExpr := none

def read : Reader VolumeMount :=
  Node.resource "VolumeMount" <|
    VolumeMount.mk <$> resourceText "mountPath" <*> resourcePart "mountPropagation" Node.text <*>
      resourceText "name" <*> resourcePart "readOnly" Node.flag <*>
      resourcePart "recursiveReadOnly" Node.text <*> resourcePart "subPath" Node.text <*>
      resourcePart "subPathExpr" Node.text

def json (m : VolumeMount) : Value :=
  .record [("mountPath", some (.string m.mountPath)),
    ("mountPropagation", m.mountPropagation.map .string), ("name", some (.string m.name)),
    ("readOnly", m.readOnly.map .bool), ("recursiveReadOnly", m.recursiveReadOnly.map .string),
    ("subPath", m.subPath.map .string), ("subPathExpr", m.subPathExpr.map .string)]

end VolumeMount

end SyncPods
