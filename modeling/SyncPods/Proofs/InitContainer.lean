import SyncPods.Proofs.BuiltPod
import SyncPods.Proofs.UuidText

/-!
# The init container

The init container is made like the orchestrator, and is told in a variable which workspace the run
is for. Where a container has several variables of a name it goes by the last one, and this variable
stands behind all that a request names. So no request can tell the init container of another
workspace, and in all other variables it agrees with the orchestrator.
-/

namespace SyncPods

/-- The variable of a name that a container goes by, which is the last one of that name. -/
def EnvVar.effective? (name : String) (env : List EnvVar) : Option EnvVar :=
  (env.filter fun v => v.name = name).getLast?

/-- The digits of written identifiers. -/
def Uuid.smallDigits : List Char :=
  ['0', '1', '2', '3', '4', '5', '6', '7', '8', '9', 'a', 'b', 'c', 'd', 'e', 'f']

/-- A text is an identifier in small digits, with hyphens between its groups. -/
def Uuid.Hyphenated (id : Uuid) (text : String) : Prop :=
  Uuid.parse text = .ok id ∧
    ∃ groups : List (List Char), text.toList = List.intercalate ['-'] groups ∧
      groups.map List.length = Uuid.groupLengths ∧
      ∀ digits ∈ groups, ∀ c ∈ digits, c ∈ Uuid.smallDigits

/-- An init container is made like an orchestrator, but for its image and what it runs. It goes by
the workspace of the request, and by the variables of the orchestrator in all else. -/
structure Container.Mirrors (settings : Settings) (request : RunRequest)
    (init orchestrator : Container) : Prop where
  resources : init.resources = orchestrator.resources
  volumeMounts : init.volumeMounts = orchestrator.volumeMounts
  imagePullPolicy : init.imagePullPolicy = orchestrator.imagePullPolicy
  securityContext : init.securityContext = orchestrator.securityContext
  image : init.image = settings.cluster.initImage
  noCommand : init.command = none
  workspace : ∃ text, request.workspaceId.Hyphenated text ∧
    EnvVar.effective? workspaceVariable init.env = some (EnvVar.plain workspaceVariable text)
  others : ∀ name, name ≠ workspaceVariable →
    EnvVar.effective? name init.env = EnvVar.effective? name orchestrator.env

/-! ## Variables -/

namespace EnvVar

variable {name : String} {env : List EnvVar} {v : EnvVar}

theorem effective?_append_of_eq (same : v.name = name) :
    effective? name (env ++ [v]) = some v := by
  simp [effective?, List.filter_append, same]

theorem effective?_append_of_ne (other : v.name ≠ name) :
    effective? name (env ++ [v]) = effective? name env := by
  simp [effective?, List.filter_append, other]

end EnvVar

/-! ## Identifiers -/

namespace Uuid

theorem mem_smallDigits_of_mem_hexDigits {count n : Nat} {c : Char}
    (member : c ∈ hexDigits count n) : c ∈ smallDigits := by
  obtain ⟨d, small, rfl⟩ := exists_of_mem_hexDigits member
  have digits : ∀ d < 16, Nat.digitChar d ∈ smallDigits := by decide
  exact digits d small

theorem exists_groups {lengths : List Nat} {digits : List Char} (grouped : lengths ≠ [])
    (total : digits.length = lengths.sum) :
    ∃ groups : List (List Char), group lengths digits = List.intercalate ['-'] groups ∧
      groups.map List.length = lengths ∧ groups.flatten = digits := by
  induction lengths generalizing digits with
  | nil => exact absurd rfl grouped
  | cons n lengths ih =>
      cases lengths with
      | nil => exact ⟨[digits], by simp [group], by simpa using total, by simp⟩
      | cons next lengths =>
          rw [List.sum_cons] at total
          have first : (digits.take n).length = n := by
            rw [List.length_take]
            omega
          have later : (digits.drop n).length = (next :: lengths).sum := by
            rw [List.length_drop]
            omega
          obtain ⟨groups, text, long, all⟩ := ih (List.cons_ne_nil next lengths) later
          cases groups with
          | nil => cases long
          | cons second groups =>
              refine ⟨digits.take n :: second :: groups, ?_, ?_, ?_⟩
              · have split : group (n :: next :: lengths) digits =
                    digits.take n ++ '-' :: group (next :: lengths) (digits.drop n) := rfl
                rw [split, text, List.intercalate_cons_cons, List.append_assoc]
                rfl
              · rw [List.map_cons, first, long]
              · rw [List.flatten_cons, all, List.take_append_drop]

/-- An identifier is written in small digits with hyphens. -/
theorem hyphenated_text (id : Uuid) : id.Hyphenated id.text := by
  have total : (hexDigits 32 id.bits.toNat).length = groupLengths.sum := by
    simp [groupLengths]
  obtain ⟨groups, text, long, all⟩ := exists_groups (by decide) total
  refine ⟨id.parse_text, groups, id.toList_text.trans text, long, fun digits listed c member => ?_⟩
  have inDigits : c ∈ hexDigits 32 id.bits.toNat :=
    all ▸ List.mem_flatten_of_mem listed member
  exact mem_smallDigits_of_mem_hexDigits inDigits

end Uuid

/-! ## Builds -/

namespace Settings

variable {settings : Settings} {kind : RunKind} {request : RunRequest}

theorem mirrors_plannedInit :
    (settings.plannedInit kind request).Mirrors settings request
      (settings.plannedOrchestrator kind request) where
  resources := rfl
  volumeMounts := rfl
  imagePullPolicy := rfl
  securityContext := rfl
  image := rfl
  noCommand := rfl
  workspace := ⟨request.workspaceId.text, request.workspaceId.hyphenated_text,
    EnvVar.effective?_append_of_eq rfl⟩
  others _ other := EnvVar.effective?_append_of_ne other.symm

/-- In every pod that is built the init container is made like the orchestrator and goes by the
workspace of the request, whatever variables the request names. The other containers have the
variables of the request as they are. -/
theorem init_mirrors_orchestrator {pod : Pod} (built : settings.buildPod kind request = .ok pod) :
    ∃ spec init orchestrator connectors,
      pod.spec = some spec ∧ spec.initContainers = [init] ∧
        spec.containers = orchestrator :: connectors ∧ init.name = Role.init.name ∧
        orchestrator.name = Role.orchestrator.name ∧
        connectors.map (·.name) = kind.ifSource [Role.source.name] ++ [Role.destination.name] ∧
        init.Mirrors settings request orchestrator ∧
        orchestrator.env = request.orchestratorEnv ∧
        connectors.map (·.env) = kind.ifSource [request.sourceEnv] ++ [request.destinationEnv] := by
  obtain ⟨-, rfl⟩ := buildPod_eq_ok_iff.mp built
  refine ⟨settings.plannedSpec kind request, settings.plannedInit kind request,
    settings.plannedOrchestrator kind request, settings.plannedConnectors kind request,
    rfl, rfl, rfl, rfl, rfl, ?_, mirrors_plannedInit, rfl, ?_⟩
  · cases kind <;> rfl
  · cases kind <;> rfl

end Settings

/-- The sample's request with other workspaces among the variables of the orchestrator. -/
def Sample.spoofingRequest : RunRequest :=
  { request with
    orchestratorEnv := [EnvVar.plain workspaceVariable "elsewhere", EnvVar.plain "JOB_ID" "7",
      ⟨workspaceVariable, none, some ⟨none, some ⟨none, "metadata.name"⟩, none, none⟩⟩] }

theorem Settings.init_mirrors_orchestrator_spoofingRequest :
    EnvVar.effective? workspaceVariable Sample.spoofingRequest.orchestratorEnv ≠ none ∧
      Sample.settings.buildPod .reset Sample.spoofingRequest =
        .ok (Sample.settings.plannedPod .reset Sample.spoofingRequest) ∧
      ∃ spec init orchestrator connectors,
        (Sample.settings.plannedPod .reset Sample.spoofingRequest).spec = some spec ∧
          spec.initContainers = [init] ∧ spec.containers = orchestrator :: connectors ∧
          init.name = Role.init.name ∧ orchestrator.name = Role.orchestrator.name ∧
          connectors.map (·.name) = [] ++ [Role.destination.name] ∧
          init.Mirrors Sample.settings Sample.spoofingRequest orchestrator ∧
          orchestrator.env = Sample.spoofingRequest.orchestratorEnv ∧
          connectors.map (·.env) = [] ++ [Sample.spoofingRequest.destinationEnv] := by
  have built : Sample.settings.buildPod .reset Sample.spoofingRequest =
      .ok (Sample.settings.plannedPod .reset Sample.spoofingRequest) :=
    buildPod_eq_ok_iff.mpr ⟨by decide, rfl⟩
  exact ⟨by decide, built, init_mirrors_orchestrator built⟩

end SyncPods
