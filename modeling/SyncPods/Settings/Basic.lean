import SyncPods.Settings.Cluster
import SyncPods.Settings.Conventions
import SyncPods.Settings.Flags

/-!
# Settings of the launcher

Everything that is configured, and what makes a configuration invalid.
-/

namespace SyncPods

open Json

/-- The address of the service that errors are reported to. -/
structure ErrorTracking where
  dsn : String
deriving DecidableEq, Repr

def ErrorTracking.read {N E : Type} [Source N E] : N → Except E ErrorTracking :=
  Source.record "SentryConfig" (ErrorTracking.mk <$> Shape.required "dsn" Source.string)

def ErrorTracking.json (t : ErrorTracking) : Value := .object [("dsn", .string t.dsn)]

structure Settings where
  /-- The name of the data plane, which every log line bears. -/
  dataPlane : String
  cluster : ClusterSettings
  flags : FlagSettings
  conventions : Conventions
  errorTracking : Option ErrorTracking
deriving DecidableEq

namespace Settings

def read {N E : Type} [Source N E] : N → Except E Settings :=
  Source.record "LauncherConfig" <|
    Settings.mk <$> Shape.required "data_plane" Source.string <*>
      Shape.required "kubernetes" ClusterSettings.read <*>
      Shape.withDefault "feature_flags" FlagSettings.read FlagSettings.none <*>
      Shape.withDefault "scripts" Conventions.read Conventions.builtIn <*>
      Shape.optional "sentry" (Source.orNull ErrorTracking.read)

def json (s : Settings) : Value :=
  .record [("data_plane", some (.string s.dataPlane)), ("kubernetes", some s.cluster.json),
    ("feature_flags", some s.flags.json), ("scripts", some s.conventions.json),
    ("sentry", s.errorTracking.map ErrorTracking.json)]

/-- What settings may lack. -/
inductive Invalid where
  | emptyNamespace
  | emptyInitImage
  | blankImagePullSecret
  | emptySidecarBinary
  | emptyEntrypointVariable
deriving DecidableEq, Repr

def Invalid.message : Invalid → String
  | .emptyNamespace => "`kubernetes.namespace` cannot be empty"
  | .emptyInitImage => "`kubernetes.init_image` cannot be empty"
  | .blankImagePullSecret => "`kubernetes.image_pull_secrets` contains a blank secret name"
  | .emptySidecarBinary => "`scripts.sidecar_binary` cannot be empty"
  | .emptyEntrypointVariable => "`scripts.entrypoint_env_var` cannot be empty"

end Settings

open Text Settings in
/-- The first thing wrong with the settings of the cluster. -/
def ClusterSettings.invalid? (s : ClusterSettings) : Option Invalid :=
  if isBlankText s.namespaceName then some .emptyNamespace
  else if isBlankText s.initImage then some .emptyInitImage
  else if s.imagePullSecrets.any isBlankText then some .blankImagePullSecret
  else none

open Text Settings in
def Conventions.invalid? (c : Conventions) : Option Invalid :=
  if isBlankText c.sidecarBinary then some .emptySidecarBinary
  else if isBlankText c.entrypointVariable then some .emptyEntrypointVariable
  else none

def Settings.invalid? (s : Settings) : Option Settings.Invalid :=
  s.cluster.invalid?.or s.conventions.invalid?

end SyncPods
