import SyncPods.Json.Record

/-!
# Environment variables of containers

A variable has a plain value or takes one from elsewhere when the container starts. Variables are
read from and written in the form that the cluster's resources have.
-/

namespace SyncPods

open Json

/-- A key of a configuration map or of a secret. -/
structure KeySelector where
  key : String
  name : String
  isOptional : Option Bool
deriving DecidableEq, Repr, Inhabited

/-- A field of the pod itself. -/
structure FieldSelector where
  apiVersion : Option String
  fieldPath : String
deriving DecidableEq, Repr, Inhabited

/-- A resource of a container of the pod. -/
structure ResourceSelector where
  containerName : Option String
  divisor : Option String
  resource : String
deriving DecidableEq, Repr, Inhabited

/-- Where a variable takes its value from. -/
structure EnvSource where
  configMapKey : Option KeySelector
  field : Option FieldSelector
  resourceField : Option ResourceSelector
  secretKey : Option KeySelector
deriving DecidableEq, Repr, Inhabited

structure EnvVar where
  name : String
  value : Option String
  source : Option EnvSource
deriving DecidableEq, Repr, Inhabited

def EnvVar.plain (name value : String) : EnvVar := ⟨name, some value, none⟩

/-- A text of a resource, empty where it is absent or null. -/
def resourceText (name : String) : Shape Node Failure String :=
  (·.getD "") <$> Shape.optional name (Node.orNull Node.text)

/-- A part of a resource that may be absent or null. -/
def resourcePart {α : Type} (name : String) (read : Reader α) : Shape Node Failure (Option α) :=
  Shape.optional name (Node.orNull read)

namespace KeySelector

def read (type : String) : Reader KeySelector :=
  Node.resource type <|
    KeySelector.mk <$> resourceText "key" <*> resourceText "name" <*>
      resourcePart "optional" Node.flag

def json (s : KeySelector) : Value :=
  .record [("key", some (.string s.key)), ("name", some (.string s.name)),
    ("optional", s.isOptional.map .bool)]

end KeySelector

namespace FieldSelector

def read : Reader FieldSelector :=
  Node.resource "ObjectFieldSelector" <|
    FieldSelector.mk <$> resourcePart "apiVersion" Node.text <*> resourceText "fieldPath"

def json (s : FieldSelector) : Value :=
  .record [("apiVersion", s.apiVersion.map .string), ("fieldPath", some (.string s.fieldPath))]

end FieldSelector

namespace ResourceSelector

def read : Reader ResourceSelector :=
  Node.resource "ResourceFieldSelector" <|
    ResourceSelector.mk <$> resourcePart "containerName" Node.text <*>
      resourcePart "divisor" Node.text <*> resourceText "resource"

def json (s : ResourceSelector) : Value :=
  .record [("containerName", s.containerName.map .string), ("divisor", s.divisor.map .string),
    ("resource", some (.string s.resource))]

end ResourceSelector

namespace EnvSource

def read : Reader EnvSource :=
  Node.resource "EnvVarSource" <|
    EnvSource.mk <$> resourcePart "configMapKeyRef" (KeySelector.read "ConfigMapKeySelector") <*>
      resourcePart "fieldRef" FieldSelector.read <*>
      resourcePart "resourceFieldRef" ResourceSelector.read <*>
      resourcePart "secretKeyRef" (KeySelector.read "SecretKeySelector")

def json (s : EnvSource) : Value :=
  .record [("configMapKeyRef", s.configMapKey.map KeySelector.json),
    ("fieldRef", s.field.map FieldSelector.json),
    ("resourceFieldRef", s.resourceField.map ResourceSelector.json),
    ("secretKeyRef", s.secretKey.map KeySelector.json)]

end EnvSource

namespace EnvVar

def read : Reader EnvVar :=
  Node.resource "EnvVar" <|
    EnvVar.mk <$> resourceText "name" <*> resourcePart "value" Node.text <*>
      resourcePart "valueFrom" EnvSource.read

def json (v : EnvVar) : Value :=
  .record [("name", some (.string v.name)), ("value", v.value.map .string),
    ("valueFrom", v.source.map EnvSource.json)]

end EnvVar

end SyncPods
