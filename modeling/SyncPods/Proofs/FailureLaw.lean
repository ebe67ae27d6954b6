import SyncPods.Proofs.BuiltPod

/-!
# When a build fails

A build fails just when one of its checks fails, and then with the error of the first check that
does. The order of the checks is that of `Settings.faults`: images, the scheduler's flag,
quantities, the flag that removes the service account. Errors that only suppliers from elsewhere
can cause are among none of them.
-/

namespace SyncPods

/-! ## The errors of single checks -/

theorem imageFault_eq_some_iff {role : Role} {image : String} {error : BuildError} :
    imageFault role image = some error ↔
      Text.trim image = "" ∧ error = .missingImage role := by
  rw [imageFault]
  by_cases blank : Text.trim image = ""
  · simp [blank, eq_comm]
  · simp [blank]

theorem quantityFault_eq_some {role : Role} {spec : Option ResourceSpec} {error : BuildError}
    (fault : quantityFault role spec = some error) :
    ∃ resource value, error = .invalidQuantity role resource value := by
  rw [quantityFault, Option.map_eq_some_iff] at fault
  obtain ⟨entry, _, same⟩ := fault
  exact ⟨entry.1, entry.2, same.symm⟩

namespace FlagSettings

theorem textFault_eq_some {s : FlagSettings} {flag : TextFlag} {context : FlagContext}
    {error : FlagError} (fault : s.textFault flag context = some error) :
    error = .typeMismatch flag.key "string" := by
  rw [textFault] at fault
  split at fault
  · exact (Option.some.inj fault).symm
  · cases fault

theorem boolFault_eq_some {s : FlagSettings} {flag : BoolFlag} {context : FlagContext}
    {error : FlagError} (fault : s.boolFault flag context = some error) :
    error = .typeMismatch flag.key "boolean" := by
  rw [boolFault] at fault
  split at fault
  · split at fault
    · cases fault
    · exact (Option.some.inj fault).symm
  · cases fault

end FlagSettings

/-! ## The errors of builds -/

/-- An error that a check of a build can end with. -/
def BuildError.OfCheck : BuildError → Prop
  | .missingImage _ => True
  | .invalidQuantity role _ _ => role ≠ .orchestrator
  | .flag (.typeMismatch _ _) => True
  | .flag (.unavailable _) => False
  | .supplier _ => False

namespace Settings

variable {settings : Settings} {kind : RunKind} {request : RunRequest} {error : BuildError}

private theorem imageFaults_ofCheck (member : some error ∈ imageFaults kind request) :
    error.OfCheck := by
  have ofImage {role : Role} {image : String} (fault : some error = imageFault role image) :
      error.OfCheck := by
    obtain ⟨_, rfl⟩ := imageFault_eq_some_iff.mp fault.symm
    trivial
  simp only [imageFaults, List.mem_append, List.mem_cons, List.not_mem_nil, or_false] at member
  rcases member with (fault | inSource) | fault
  · exact ofImage fault
  · exact ofImage (List.mem_singleton.mp (RunKind.mem_of_mem_ifSource inSource))
  · exact ofImage fault

private theorem quantityFaults_ofCheck (member : some error ∈ quantityFaults kind request) :
    error.OfCheck := by
  have ofRole {role : Role} {spec : Option ResourceSpec} (other : role ≠ .orchestrator)
      (fault : some error = quantityFault role spec) : error.OfCheck := by
    obtain ⟨resource, value, rfl⟩ := quantityFault_eq_some fault.symm
    exact other
  simp only [quantityFaults, List.mem_append, List.mem_cons, List.not_mem_nil, or_false] at member
  rcases member with (fault | inSource) | fault
  · exact ofRole (by decide) fault
  · exact ofRole (by decide) (List.mem_singleton.mp (RunKind.mem_of_mem_ifSource inSource))
  · exact ofRole (by decide) fault

theorem faults_ofCheck (member : some error ∈ settings.faults kind request) :
    error.OfCheck := by
  simp only [faults, List.mem_append, List.mem_cons, List.not_mem_nil, or_false] at member
  rcases member with (image | scheduler | quantity) | account
  · exact imageFaults_ofCheck image
  · rw [eq_comm, schedulerFault, Option.map_eq_some_iff] at scheduler
    obtain ⟨inner, fault, rfl⟩ := scheduler
    rw [FlagSettings.textFault_eq_some fault]
    trivial
  · exact quantityFaults_ofCheck quantity
  · rw [eq_comm, accountFault, Option.map_eq_some_iff] at account
    obtain ⟨inner, fault, rfl⟩ := account
    rw [FlagSettings.boolFault_eq_some fault]
    trivial

theorem buildPod_error_ofCheck (failed : settings.buildPod kind request = .error error) :
    error.OfCheck := by
  rw [buildPod_eq, guarded_eq_error_iff] at failed
  obtain ⟨passed, later, split, _⟩ := firstFault_eq_some_iff.mp failed
  have member : some error ∈ settings.faults kind request := by
    rw [split]
    exact List.mem_append_right passed List.mem_cons_self
  exact faults_ofCheck member

/-- A build gives a pod just when every check passes, and otherwise the error of the first check
that fails. No check fails for the orchestrator's quantities, which are the init container's, for
a flag service that does not answer or for a supplier from elsewhere. -/
theorem buildPod_fails_at_first_fault (settings : Settings) (kind : RunKind)
    (request : RunRequest) :
    ((∃ pod, settings.buildPod kind request = .ok pod) ↔
        ∀ fault ∈ settings.faults kind request, fault = none) ∧
      (∀ error, settings.buildPod kind request = .error error ↔
        ∃ passed later, settings.faults kind request = passed ++ some error :: later ∧
          ∀ fault ∈ passed, fault = none) ∧
      (∀ resource value,
        settings.buildPod kind request ≠ .error (.invalidQuantity .orchestrator resource value)) ∧
      (∀ reason, settings.buildPod kind request ≠ .error (.flag (.unavailable reason))) ∧
      (∀ reason, settings.buildPod kind request ≠ .error (.supplier reason)) := by
  refine ⟨?_, ?_, ?_, ?_, ?_⟩
  · rw [← firstFault_eq_none_iff]
    constructor
    · rintro ⟨pod, built⟩
      exact (buildPod_eq_ok_iff.mp built).1
    · intro passed
      exact ⟨settings.plannedPod kind request, buildPod_eq_ok_iff.mpr ⟨passed, rfl⟩⟩
  · intro error
    rw [buildPod_eq, guarded_eq_error_iff, firstFault_eq_some_iff]
  · intro resource value failed
    exact buildPod_error_ofCheck failed rfl
  · intro reason failed
    exact buildPod_error_ofCheck failed
  · intro reason failed
    exact buildPod_error_ofCheck failed

end Settings

end SyncPods
