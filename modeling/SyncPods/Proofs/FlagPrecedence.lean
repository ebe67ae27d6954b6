import SyncPods.Proofs.BuiltPod

/-!
# What flags do to a pod

Of all overrides of a flag in a context the first counts, and without one the value for everybody.
That value alone, of the two flags that a build asks for, decides on the scheduler and on the
service account of the pod.
-/

namespace SyncPods

/-- An override is for a flag and for what has the identifier, be it a connection or a workspace. -/
def FlagOverride.IsFor (key : String) (id : Uuid) (o : FlagOverride) : Prop :=
  o.flag = key ∧ o.context = id

instance (key : String) (id : Uuid) (o : FlagOverride) : Decidable (o.IsFor key id) :=
  inferInstanceAs (Decidable (_ ∧ _))

namespace FlagSettings

/-- The value of a flag in a context that is in force, if there is one. -/
inductive InForce (s : FlagSettings) (key : String) (id : Uuid) : Option FlagValue → Prop
  | overridden {before after : List FlagOverride} {o : FlagOverride}
      (split : s.overrides = before ++ o :: after) (isFor : o.IsFor key id)
      (first : ∀ other ∈ before, ¬ other.IsFor key id) : InForce s key id (some o.value)
  | general (others : ∀ o ∈ s.overrides, ¬ o.IsFor key id) : InForce s key id (s.values.get? key)

/-- Other values for everybody make no difference to a flag: it is overridden in the context, or
its value is the same. -/
def Indifferent (s : FlagSettings) (values : Dict FlagValue) (key : String) (id : Uuid) : Prop :=
  (∃ o ∈ s.overrides, o.IsFor key id) ∨ values.get? key = s.values.get? key

variable {s : FlagSettings} {key : String} {id : Uuid}

/-! ## Values in force -/

theorem lookup_eq (s : FlagSettings) (key : String) (id : Uuid) :
    s.lookup key id =
      ((s.overrides.find? fun o => o.IsFor key id).map (·.value)).or (s.values.get? key) := by
  have test : (fun o : FlagOverride => o.flag == key && o.context == id) =
      fun o => decide (o.IsFor key id) := by
    funext o
    rw [Bool.eq_iff_iff, Bool.and_eq_true, beq_iff_eq, beq_iff_eq, decide_eq_true_iff]
    rfl
  rw [lookup, test]
  cases s.overrides.find? fun o => o.IsFor key id <;> rfl

/-- There is exactly one value in force, and it is the one that is looked up. -/
theorem inForce_iff {value : Option FlagValue} :
    s.InForce key id value ↔ s.lookup key id = value := by
  rw [lookup_eq]
  constructor
  · intro inForce
    cases inForce with
    | @overridden before after o split isFor first =>
        have found : s.overrides.find? (fun o => o.IsFor key id) = some o := by
          rw [List.find?_eq_some_iff_append]
          exact ⟨decide_eq_true isFor, before, after, split, by simpa using first⟩
        rw [found]
        rfl
    | general others =>
        have missing : s.overrides.find? (fun o => o.IsFor key id) = .none := by
          simpa using others
        rw [missing]
        rfl
  -- A list either splits at the first override that is for both or has none that is.
  · rintro rfl
    cases answer : s.overrides.find? fun o => o.IsFor key id with
    | some o =>
        obtain ⟨isFor, before, after, split, first⟩ := List.find?_eq_some_iff_append.mp answer
        exact .overridden split (of_decide_eq_true isFor) (by simpa using first)
    | none => exact .general (by simpa using answer)

theorem inForce_lookup (s : FlagSettings) (key : String) (id : Uuid) :
    s.InForce key id (s.lookup key id) :=
  inForce_iff.mpr rfl

theorem lookup_of_indifferent {values : Dict FlagValue}
    (indifferent : s.Indifferent values key id) :
    FlagSettings.lookup ⟨values, s.overrides⟩ key id = s.lookup key id := by
  rw [lookup_eq, lookup_eq]
  rcases indifferent with ⟨o, member, isFor⟩ | same
  · have found : (s.overrides.find? fun o => o.IsFor key id).isSome := by
      rw [List.find?_isSome]
      exact ⟨o, member, decide_eq_true isFor⟩
    obtain ⟨first, answer⟩ := Option.isSome_iff_exists.mp found
    rw [answer]
    rfl
  · rw [same]

/-! ## Evaluated flags -/

theorem text_of_inForce {value : Option FlagValue} {flag : TextFlag} {context : FlagContext}
    (inForce : s.InForce flag.key context.id value) (passed : s.textFault flag context = .none) :
    value.getD (.text flag.default) = .text (s.textValue flag context) := by
  rw [inForce_iff] at inForce
  rw [textFault, inForce] at passed
  rw [textValue, inForce]
  cases value with
  | none => rfl
  | some value =>
      cases value with
      | bool on => cases passed
      | text name => rfl

theorem isOn_of_inForce {value : Option FlagValue} (flag : BoolFlag) (context : FlagContext)
    (off : flag.default = false) (inForce : s.InForce flag.key context.id value) :
    s.boolValue flag context = true ↔
      value = some (.bool true) ∨ value = some (.text "true") := by
  rw [inForce_iff] at inForce
  rw [boolValue, inForce]
  cases value with
  | none => simp [off]
  | some value => cases value <;> simp

theorem text_eq_of_lookup_eq {s' : FlagSettings} (flag : TextFlag) (context : FlagContext)
    (same : s'.lookup flag.key context.id = s.lookup flag.key context.id) :
    s'.textFault flag context = s.textFault flag context ∧
      s'.textValue flag context = s.textValue flag context := by
  rw [textFault, textValue, same]
  exact ⟨rfl, rfl⟩

theorem bool_eq_of_lookup_eq {s' : FlagSettings} (flag : BoolFlag) (context : FlagContext)
    (same : s'.lookup flag.key context.id = s.lookup flag.key context.id) :
    s'.boolFault flag context = s.boolFault flag context ∧
      s'.boolValue flag context = s.boolValue flag context := by
  rw [boolFault, boolValue, same]
  exact ⟨rfl, rfl⟩

end FlagSettings

/-! ## Flags and pods -/

/-- A pod has the scheduler and the service account that the flags in force say. -/
structure PodSpec.FollowsFlags (settings : Settings) (request : RunRequest) (spec : PodSpec) :
    Prop where
  scheduler : ∃ value,
    settings.flags.InForce "replication-pod-scheduler-name" Uuid.nil value ∧
      value.getD (.text "default-scheduler") = .text spec.schedulerName
  account : ∃ value,
    settings.flags.InForce "remove-service-account" request.workspaceId value ∧
      spec.serviceAccountName =
        if value = some (.bool true) ∨ value = some (.text "true") then none
        else settings.cluster.serviceAccount

namespace Settings

variable {settings : Settings} {kind : RunKind} {request : RunRequest}

/-- A build asks two flags, and comes out the same with all settings of flags that give it the
same answers. -/
theorem buildPod_eq_of_lookup_eq {flags : FlagSettings}
    (scheduler : flags.lookup schedulerFlag.key FlagContext.anonymous.id =
      settings.flags.lookup schedulerFlag.key FlagContext.anonymous.id)
    (removal : flags.lookup removeAccountFlag.key request.workspaceId =
      settings.flags.lookup removeAccountFlag.key request.workspaceId) :
    Settings.buildPod { settings with flags } kind request = settings.buildPod kind request := by
  obtain ⟨schedulerFault_eq, scheduler_eq⟩ :=
    FlagSettings.text_eq_of_lookup_eq schedulerFlag .anonymous scheduler
  obtain ⟨accountFault_eq, removal_eq⟩ :=
    FlagSettings.bool_eq_of_lookup_eq removeAccountFlag (.workspace request.workspaceId) removal
  have checked : Settings.faults { settings with flags } kind request =
      settings.faults kind request := by
    simp only [faults, schedulerFault, accountFault, schedulerFault_eq, accountFault_eq]
  have planned : Settings.plannedPod { settings with flags } kind request =
      settings.plannedPod kind request := by
    simp only [plannedPod, plannedSpec, plannedAccount, scheduler_eq, removal_eq]
    rfl
  rw [buildPod_eq, buildPod_eq, checked, planned]

theorem followsFlags_plannedSpec (passed : firstFault (settings.faults kind request) = none) :
    (settings.plannedSpec kind request).FollowsFlags settings request where
  scheduler := by
    have checked : settings.schedulerFault = none := by
      apply firstFault_eq_none_iff.mp passed
      simp [faults]
    have inForce := settings.flags.inForce_lookup schedulerFlag.key FlagContext.anonymous.id
    exact ⟨_, inForce, FlagSettings.text_of_inForce inForce (Option.map_eq_none_iff.mp checked)⟩
  account := by
    have inForce := settings.flags.inForce_lookup removeAccountFlag.key request.workspaceId
    have isOn := FlagSettings.isOn_of_inForce removeAccountFlag (.workspace request.workspaceId) rfl
      inForce
    refine ⟨_, inForce, ?_⟩
    simp only [plannedSpec, plannedAccount, isOn]

/-- The two flags in force, and nothing else of the flags, decide on the scheduler and on the
service account of a pod. What is set for everybody makes no difference where a flag is
overridden. -/
theorem flags_reach_pod {pod : Pod} (built : settings.buildPod kind request = .ok pod) :
    ∃ spec, pod.spec = some spec ∧ spec.FollowsFlags settings request ∧
      ∀ values, settings.flags.Indifferent values schedulerFlag.key Uuid.nil →
        settings.flags.Indifferent values removeAccountFlag.key request.workspaceId →
          Settings.buildPod { settings with flags := ⟨values, settings.flags.overrides⟩ } kind
            request = .ok pod := by
  obtain ⟨passed, rfl⟩ := buildPod_eq_ok_iff.mp built
  refine ⟨_, rfl, followsFlags_plannedSpec passed, ?_⟩
  intro values scheduler removal
  rw [← built]
  exact buildPod_eq_of_lookup_eq (FlagSettings.lookup_of_indifferent scheduler)
    (FlagSettings.lookup_of_indifferent removal)

end Settings

/-- The sample's settings with flags that are overridden more than once in a context, and by values
of other types than everybody's. -/
def Sample.contested : Settings :=
  { settings with
    flags :=
      { values := Dict.ofList
          [("remove-service-account", .text "sometimes"),
            ("replication-pod-scheduler-name", .bool true)]
        overrides :=
          [⟨"remove-service-account", ⟨7⟩, .bool false⟩,
            ⟨"replication-pod-scheduler-name", Uuid.nil, .text "batch"⟩,
            ⟨"remove-service-account", Uuid.nil, .text "true"⟩,
            ⟨"replication-pod-scheduler-name", Uuid.nil, .bool false⟩] } }

def Sample.nilRequest : RunRequest := { request with workspaceId := Uuid.nil }

theorem Settings.flags_reach_pod_contested :
    ∃ pod spec, Sample.contested.buildPod .replication Sample.nilRequest = .ok pod ∧
      pod.spec = some spec ∧ spec.FollowsFlags Sample.contested Sample.nilRequest ∧
      spec.schedulerName = "batch" ∧ spec.serviceAccountName = none ∧
      Settings.buildPod { Sample.contested with flags := ⟨∅, Sample.contested.flags.overrides⟩ }
        .replication Sample.nilRequest = .ok pod := by
  have built : Sample.contested.buildPod .replication Sample.nilRequest =
      .ok (Sample.contested.plannedPod .replication Sample.nilRequest) :=
    buildPod_eq_ok_iff.mpr ⟨by decide, rfl⟩
  obtain ⟨spec, same, follows, shadowed⟩ := flags_reach_pod built
  refine ⟨_, spec, built, same, follows, ?_, ?_, shadowed ∅ ?_ ?_⟩
  · cases same
    decide
  · cases same
    decide
  · refine Or.inl ⟨⟨schedulerFlag.key, Uuid.nil, .text "batch"⟩, ?_, rfl, rfl⟩
    decide
  · refine Or.inl ⟨⟨removeAccountFlag.key, Uuid.nil, .text "true"⟩, ?_, rfl, rfl⟩
    decide

end SyncPods
