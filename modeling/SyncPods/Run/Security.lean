import SyncPods.Settings.Cluster

/-!
# Security contexts of a run

Processes run as an unprivileged user, without capabilities and behind the runtime's own filter of
system calls.
-/

namespace SyncPods.RunAs

def seccompProfile : SeccompProfile := ⟨"RuntimeDefault"⟩

def podContext (r : RunAs) : PodSecurityContext where
  fsGroup := r.fsGroup
  runAsGroup := r.group
  runAsNonRoot := true
  runAsUser := r.user
  seccompProfile

def containerContext (r : RunAs) : SecurityContext where
  allowPrivilegeEscalation := false
  droppedCapabilities := ["ALL"]
  runAsGroup := r.group
  runAsNonRoot := true
  runAsUser := r.user
  seccompProfile

end SyncPods.RunAs
