import SyncPods.Manifest.Pod
import SyncPods.Shape
import SyncPods.Text.Blank

/-!
# Settings of the cluster

What every pod gets from the cluster that it runs on.
-/

namespace SyncPods

open Json

/-- The identifiers that processes run with. -/
structure RunAs where
  user : Int
  group : Int
  fsGroup : Int
deriving DecidableEq, Repr

namespace RunAs

/-- The identifier where none is configured. -/
def builtInId : Int := 1000

def builtIn : RunAs := ⟨builtInId, builtInId, builtInId⟩

instance : Inhabited RunAs := ⟨builtIn⟩

def read {N E : Type} [Source N E] : N → Except E RunAs :=
  Source.record "SecurityConfig" <|
    RunAs.mk <$> Shape.withDefault "run_as_user" Source.int64 builtInId <*>
      Shape.withDefault "run_as_group" Source.int64 builtInId <*>
      Shape.withDefault "fs_group" Source.int64 builtInId

def json (r : RunAs) : Value :=
  .object [("run_as_user", .ofInt r.user), ("run_as_group", .ofInt r.group),
    ("fs_group", .ofInt r.fsGroup)]

end RunAs

namespace Toleration

def read {N E : Type} [Source N E] : N → Except E Toleration :=
  Source.record "TolerationConfig" <|
    Toleration.mk <$> Shape.optional "key" Source.optionalString <*>
      Shape.optional "operator" Source.optionalString <*>
      Shape.optional "value" Source.optionalString <*>
      Shape.optional "effect" Source.optionalString

/-- All four parts, null where one is not set. -/
def settingsJson (t : Toleration) : Value :=
  .object [("key", .ofOption t.key), ("operator", .ofOption t.operator),
    ("value", .ofOption t.value), ("effect", .ofOption t.effect)]

end Toleration

structure ClusterSettings where
  namespaceName : String
  serviceAccount : Option String
  imagePullSecrets : List String
  imagePullPolicy : Option String
  initImage : String
  connectorSecret : Option String
  tolerations : List Toleration
  runAs : RunAs
deriving DecidableEq, Repr

namespace ClusterSettings

/-- A text that may be absent at any place. -/
def optionalText {N E : Type} [Source N E] (name : String) : Shape N E (Option String) :=
  Shape.withDefault name Source.optionalString none

def read {N E : Type} [Source N E] : N → Except E ClusterSettings :=
  Source.record "KubernetesConfig" <|
    ClusterSettings.mk <$> Shape.required "namespace" Source.string <*>
      optionalText "service_account" <*>
      Shape.withDefault "image_pull_secrets" (Source.list Source.string) [] <*>
      optionalText "image_pull_policy" <*> Shape.required "init_image" Source.string <*>
      optionalText "connector_secret_name" <*>
      Shape.withDefault "tolerations" (Source.list Toleration.read) [] <*>
      Shape.withDefault "security" RunAs.read RunAs.builtIn

def json (s : ClusterSettings) : Value :=
  .record [("namespace", some (.string s.namespaceName)),
    ("service_account", s.serviceAccount.map .string),
    ("image_pull_secrets", some (.ofStrings s.imagePullSecrets)),
    ("image_pull_policy", s.imagePullPolicy.map .string),
    ("init_image", some (.string s.initImage)),
    ("connector_secret_name", s.connectorSecret.map .string),
    ("tolerations", some (.array (s.tolerations.map Toleration.settingsJson))),
    ("security", some s.runAs.json)]

end ClusterSettings

end SyncPods
