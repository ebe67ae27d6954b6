import Mathlib.Logic.Relation
import SyncPods.Proofs.FlagPrecedence

/-!
# Builds do not heed what is meant for others

A build takes no notice of the names of the data plane and the namespace, of the error tracking, of
flags that it does not ask for, and of overrides for other contexts or behind one for the same
context. Of the workspace, only its name and what its flag says get into the pod.
-/

namespace SyncPods

/-- The flags, each in its context, that a build for a workspace asks for. -/
def AskedFor (workspace : Uuid) (key : String) (id : Uuid) : Prop :=
  key = "replication-pod-scheduler-name" ∧ id = Uuid.nil ∨
    key = "remove-service-account" ∧ id = workspace

namespace FlagSettings

/-- An override behind others of which a build for the workspace takes no notice: it is not asked
for, or shadowed. -/
def Unheeded (workspace : Uuid) (before : List FlagOverride) (o : FlagOverride) : Prop :=
  ¬ AskedFor workspace o.flag o.context ∨ ∃ earlier ∈ before, earlier.IsFor o.flag o.context

/-- A change of the flags of which a build for the workspace takes no notice. -/
inductive UnheededEdit (workspace : Uuid) : FlagSettings → FlagSettings → Prop
  | values {values values' : Dict FlagValue} {overrides : List FlagOverride}
      (scheduler : values'.get? "replication-pod-scheduler-name" =
        values.get? "replication-pod-scheduler-name")
      (removal : values'.get? "remove-service-account" = values.get? "remove-service-account") :
      UnheededEdit workspace ⟨values, overrides⟩ ⟨values', overrides⟩
  | insert {values : Dict FlagValue} (before : List FlagOverride) {o : FlagOverride}
      (after : List FlagOverride) (unheeded : Unheeded workspace before o) :
      UnheededEdit workspace ⟨values, before ++ after⟩ ⟨values, before ++ o :: after⟩
  | delete {values : Dict FlagValue} (before : List FlagOverride) {o : FlagOverride}
      (after : List FlagOverride) (unheeded : Unheeded workspace before o) :
      UnheededEdit workspace ⟨values, before ++ o :: after⟩ ⟨values, before ++ after⟩

variable {workspace : Uuid} {key : String} {id : Uuid}

theorem lookup_of_shadowed {values : Dict FlagValue} {before after : List FlagOverride}
    {o : FlagOverride} (shadowed : o.IsFor key id → ∃ earlier ∈ before, earlier.IsFor key id) :
    FlagSettings.lookup ⟨values, before ++ o :: after⟩ key id =
      FlagSettings.lookup ⟨values, before ++ after⟩ key id := by
  have first : ((before ++ o :: after).find? fun other => other.IsFor key id) =
      (before ++ after).find? fun other => other.IsFor key id := by
    rw [List.find?_append, List.find?_append, List.find?_cons]
    by_cases isFor : o.IsFor key id
    · obtain ⟨earlier, member, earlierIsFor⟩ := shadowed isFor
      have found : (before.find? fun other => other.IsFor key id).isSome := by
        rw [List.find?_isSome]
        exact ⟨earlier, member, decide_eq_true earlierIsFor⟩
      rw [Option.or_of_isSome found, Option.or_of_isSome found]
    · rw [decide_eq_false isFor]
  rw [lookup_eq, lookup_eq, first]

theorem lookup_of_unheeded {values : Dict FlagValue} {before after : List FlagOverride}
    {o : FlagOverride} (asked : AskedFor workspace key id)
    (unheeded : Unheeded workspace before o) :
    FlagSettings.lookup ⟨values, before ++ o :: after⟩ key id =
      FlagSettings.lookup ⟨values, before ++ after⟩ key id := by
  apply lookup_of_shadowed
  rintro ⟨rfl, rfl⟩
  rcases unheeded with other | shadowed
  · exact absurd asked other
  · exact shadowed

theorem lookup_eq_of_unheededEdit {s s' : FlagSettings} (edit : UnheededEdit workspace s s')
    (asked : AskedFor workspace key id) : s'.lookup key id = s.lookup key id := by
  cases edit with
  | @values values values' overrides scheduler removal =>
      have same : values'.get? key = values.get? key := by
        rcases asked with ⟨rfl, -⟩ | ⟨rfl, -⟩
        · exact scheduler
        · exact removal
      rw [lookup_eq, lookup_eq, same]
  | insert before after unheeded => exact lookup_of_unheeded asked unheeded
  | delete before after unheeded => exact (lookup_of_unheeded asked unheeded).symm

end FlagSettings

/-- Pods that differ at most in the value of the init container's last variable and in the service
account. -/
def Pod.AlikeButForWorkspace (pod pod' : Pod) : Prop :=
  ∃ spec init env name value value' account,
    pod.spec = some spec ∧ spec.initContainers = [init] ∧
      init.env = env ++ [EnvVar.plain name value] ∧
      pod' = { pod with
        spec := some { spec with
          initContainers := [{ init with env := env ++ [EnvVar.plain name value'] }]
          serviceAccountName := account } }

namespace Settings

/-- A change of the settings of which a build for the workspace takes no notice. -/
inductive UnheededEdit (workspace : Uuid) : Settings → Settings → Prop
  | dataPlane (settings : Settings) (dataPlane : String) :
      UnheededEdit workspace settings { settings with dataPlane }
  | namespaceName (settings : Settings) (namespaceName : String) :
      UnheededEdit workspace settings
        { settings with cluster := { settings.cluster with namespaceName } }
  | errorTracking (settings : Settings) (errorTracking : Option ErrorTracking) :
      UnheededEdit workspace settings { settings with errorTracking }
  | flags (settings : Settings) {flags : FlagSettings}
      (edit : FlagSettings.UnheededEdit workspace settings.flags flags) :
      UnheededEdit workspace settings { settings with flags }

variable {settings settings' : Settings} {kind : RunKind} {request : RunRequest}

theorem buildPod_eq_of_unheededEdit (edit : UnheededEdit request.workspaceId settings settings') :
    settings'.buildPod kind request = settings.buildPod kind request := by
  cases edit with
  | dataPlane => rfl
  | namespaceName => rfl
  | errorTracking => rfl
  | flags edit =>
      have scheduler : AskedFor request.workspaceId schedulerFlag.key FlagContext.anonymous.id :=
        .inl ⟨rfl, rfl⟩
      have removal : AskedFor request.workspaceId removeAccountFlag.key request.workspaceId :=
        .inr ⟨rfl, rfl⟩
      exact buildPod_eq_of_lookup_eq (FlagSettings.lookup_eq_of_unheededEdit edit scheduler)
        (FlagSettings.lookup_eq_of_unheededEdit edit removal)

theorem buildPod_eq_of_unheededEdits
    (edits : Relation.ReflTransGen (UnheededEdit request.workspaceId) settings settings') :
    settings'.buildPod kind request = settings.buildPod kind request := by
  induction edits with
  | refl => rfl
  | tail _ edit ih => exact (buildPod_eq_of_unheededEdit edit).trans ih

theorem plannedPod_alikeButForWorkspace (settings : Settings) (kind : RunKind)
    (request : RunRequest) (workspaceId : Uuid) :
    (settings.plannedPod kind request).AlikeButForWorkspace
      (settings.plannedPod kind { request with workspaceId }) :=
  ⟨settings.plannedSpec kind request, settings.plannedInit kind request, request.orchestratorEnv,
    workspaceVariable, request.workspaceId.text, workspaceId.text,
    settings.plannedAccount { request with workspaceId }, rfl, rfl, rfl, rfl⟩

/-- No number of unheeded changes has an effect on the outcome of a build, and pods of the same
request for different workspaces differ in nothing but the name of the workspace and the service
account. -/
theorem buildPod_isolated (settings : Settings) (kind : RunKind) (request : RunRequest) :
    (∀ settings', Relation.ReflTransGen (UnheededEdit request.workspaceId) settings settings' →
        settings'.buildPod kind request = settings.buildPod kind request) ∧
      ∀ workspaceId pod pod', settings.buildPod kind request = .ok pod →
        settings.buildPod kind { request with workspaceId } = .ok pod' →
        pod.AlikeButForWorkspace pod' := by
  constructor
  · intro settings' edits
    exact buildPod_eq_of_unheededEdits edits
  · intro workspaceId pod pod' built built'
    obtain ⟨_, rfl⟩ := buildPod_eq_ok_iff.mp built
    obtain ⟨_, rfl⟩ := buildPod_eq_ok_iff.mp built'
    exact plannedPod_alikeButForWorkspace settings kind request workspaceId

end Settings

/-- The sample's settings under another name, with a flag that no build asks for, an override that
comes too late and one for another workspace. -/
def Sample.crowded : Settings :=
  { settings with
    dataPlane := "elsewhere"
    flags :=
      { values := Dict.ofList [("dark-mode", .bool true)]
        overrides :=
          [⟨"remove-service-account", ⟨7⟩, .text "true"⟩,
            ⟨"remove-service-account", ⟨8⟩, .bool false⟩,
            ⟨"remove-service-account", ⟨7⟩, .text "sometimes"⟩] } }

theorem Sample.unheededEdits_crowded :
    Relation.ReflTransGen (Settings.UnheededEdit request.workspaceId) settings crowded := by
  have general : FlagSettings.UnheededEdit request.workspaceId settings.flags
      ⟨crowded.flags.values, settings.flags.overrides⟩ :=
    .values (by decide) (by decide)
  have late : FlagSettings.UnheededEdit request.workspaceId
      ⟨crowded.flags.values, settings.flags.overrides⟩
      ⟨crowded.flags.values,
        settings.flags.overrides ++ [⟨"remove-service-account", ⟨7⟩, .text "sometimes"⟩]⟩ :=
    .insert settings.flags.overrides [] (.inr ⟨_, List.mem_cons_self, rfl, rfl⟩)
  have foreign : FlagSettings.UnheededEdit request.workspaceId
      ⟨crowded.flags.values,
        settings.flags.overrides ++ [⟨"remove-service-account", ⟨7⟩, .text "sometimes"⟩]⟩
      crowded.flags := by
    refine .insert settings.flags.overrides [⟨_, _, _⟩] (.inl ?_)
    rintro (⟨key, -⟩ | ⟨-, id⟩)
    · exact absurd key (by decide)
    · exact absurd id (by decide)
  exact (((Relation.ReflTransGen.single (.dataPlane settings "elsewhere")).tail
    (.flags _ general)).tail (.flags _ late)).tail (.flags _ foreign)

theorem Settings.buildPod_isolated_crowded :
    Sample.crowded.buildPod .replication Sample.request =
        .ok (Sample.settings.plannedPod .replication Sample.request) ∧
      (Sample.settings.plannedPod .replication Sample.request).AlikeButForWorkspace
        (Sample.settings.plannedPod .replication { Sample.request with workspaceId := ⟨8⟩ }) ∧
      Sample.settings.plannedPod .replication Sample.request ≠
        Sample.settings.plannedPod .replication { Sample.request with workspaceId := ⟨8⟩ } := by
  obtain ⟨unchanged, alike⟩ :=
    buildPod_isolated Sample.settings .replication Sample.request
  have other : Sample.settings.buildPod .replication
      { Sample.request with workspaceId := ⟨8⟩ } =
        .ok (Sample.settings.plannedPod .replication
          { Sample.request with workspaceId := ⟨8⟩ }) :=
    buildPod_eq_ok_iff.mpr ⟨by decide, rfl⟩
  refine ⟨?_, alike ⟨8⟩ _ _ (Sample.built .replication) other, ?_⟩
  · rw [unchanged Sample.crowded Sample.unheededEdits_crowded, Sample.built]
  · intro same
    have account := congrArg (fun pod => pod.spec.map PodSpec.serviceAccountName) same
    exact absurd account (by decide)

end SyncPods
