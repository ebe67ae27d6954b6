import SyncPods.Proofs.RequestRecovery
import SyncPods.Run.Journal

/-!
# Resets do not depend on the source

What a request says of the source makes no difference to a reset: not to its outcome, be it a pod
or an error, and not to the calls and events on the way there.
-/

namespace SyncPods

namespace Assembly

variable {m : Type → Type} [Monad m] [MonadExceptOf BuildError m]

/-- Whoever is told of the assembly of a reset, it is that of the request without its source. -/
theorem pod_reset_withoutSource (observer : Observer m) (settings : Settings)
    (request : RunRequest) :
    pod observer settings .reset request.withoutSource = pod observer settings .reset request := by
  have images : (requireImages .reset request.withoutSource : m Unit) =
      requireImages .reset request := rfl
  -- The volumes of a reset are asked for without a word on the handing over of files.
  have volumes : volumeSet observer settings .reset request.withoutSource.fileTransfer =
      volumeSet observer settings .reset request.fileTransfer := rfl
  have containers : mainContainers observer settings .reset request.withoutSource =
      mainContainers observer settings .reset request := rfl
  have account : serviceAccount observer settings request.withoutSource =
      serviceAccount observer settings request := rfl
  have event : assembledEvent .reset request.withoutSource = assembledEvent .reset request := rfl
  rw [pod, images, volumes, containers, account, event]
  rfl

end Assembly

namespace Settings

/-- Requests that agree in everything but their sources are reset with the same outcome, and with
the same calls and events whatever calls are refused. -/
theorem reset_eq_of_withoutSource_eq {settings : Settings} {request request' : RunRequest}
    (same : request.withoutSource = request'.withoutSource) :
    settings.buildPod .reset request = settings.buildPod .reset request' ∧
      ∀ refused, settings.traceBuild refused .reset request =
        settings.traceBuild refused .reset request' := by
  constructor
  · rw [buildPod, buildPod, ← Assembly.pod_reset_withoutSource, same,
      Assembly.pod_reset_withoutSource]
  · intro refused
    rw [traceBuild, traceBuild, ← Assembly.pod_reset_withoutSource, same,
      Assembly.pod_reset_withoutSource]

end Settings

/-- The sample's request with a source that no replication can do with. -/
def Sample.strayRequest : RunRequest :=
  { request with
    sourceImage := " "
    sourceResources := some ⟨some "two cores", none, none, none, none, none⟩
    sourceEnv := [EnvVar.plain "PROXY" "off"]
    fileTransfer := false }

theorem Settings.reset_eq_of_withoutSource_eq_strayRequest :
    Sample.settings.buildPod .replication Sample.strayRequest = .error (.missingImage .source) ∧
      Sample.strayRequest.withoutSource = Sample.request.withoutSource ∧
      Sample.settings.buildPod .reset Sample.strayRequest =
        Sample.settings.buildPod .reset Sample.request ∧
      ∀ refused, Sample.settings.traceBuild refused .reset Sample.strayRequest =
        Sample.settings.traceBuild refused .reset Sample.request := by
  have failed : Sample.settings.buildPod .replication Sample.strayRequest =
      .error (.missingImage .source) := by
    decide
  exact ⟨failed, rfl, reset_eq_of_withoutSource_eq rfl⟩

end SyncPods
