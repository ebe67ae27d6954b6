import SyncPods.Proofs.FieldPlace
import SyncPods.Proofs.FlagPrecedence
import SyncPods.Proofs.Presentation
import SyncPods.Proofs.UuidSpellings

/-!
# Workspaces are told apart by value

A request names its workspace, and an override the workspace that it is for, in any of the
spellings of an identifier. Which one it is makes no difference: the override is for the request's
workspace just if the two identifiers are the same number, and the pod names the workspace in a
spelling of its own.
-/

namespace SyncPods

open Json

/-! ## Places of identifiers -/

/-- The place of the workspace in the node of a request. -/
abbrev RunRequest.WorkspacePlace : (Node → Node) → Prop :=
  FieldPlace (RunRequest.forms.map FieldForm.name) "workspace_id"

/-- The place of an override's context in the node of settings. -/
inductive Settings.ContextPlace (i : Nat) : (Node → Node) → Prop
  | within {settings flags overrides context : Node → Node}
      (inSettings : FieldPlace (Settings.forms.map FieldForm.name) "feature_flags" settings)
      (inFlags : FieldPlace (FlagSettings.forms.map FieldForm.name) "overrides" flags)
      (inOverrides : ItemPlace i overrides)
      (inOverride : FieldPlace (FlagOverride.forms.map FieldForm.name) "context" context) :
      ContextPlace i (settings ∘ flags ∘ overrides ∘ context)

def RunRequest.overWorkspace (change : Uuid → Uuid) (r : RunRequest) : RunRequest :=
  { r with workspaceId := change r.workspaceId }

def FlagOverride.overContext (change : Uuid → Uuid) (o : FlagOverride) : FlagOverride :=
  { o with context := change o.context }

def FlagSettings.overOverrides (change : List FlagOverride → List FlagOverride)
    (s : FlagSettings) : FlagSettings :=
  { s with overrides := change s.overrides }

def Settings.overFlags (change : FlagSettings → FlagSettings) (s : Settings) : Settings :=
  { s with flags := change s.flags }

theorem RunRequest.carries_workspace {place : Node → Node} (isPlace : WorkspacePlace place) :
    Carries place read Uuid.read overWorkspace := by
  have text {name : String} (other : name ≠ "workspace_id") :
      Heedless "workspace_id" (Shape.required name Node.text) := heedless_required other _
  have texts {name : String} (other : name ≠ "workspace_id") :
      Heedless "workspace_id" (Shape.withDefault name (Node.dict Node.text) ∅) :=
    heedless_withDefault other _ _
  have spec {name : String} (other : name ≠ "workspace_id") :
      Heedless "workspace_id" (Shape.withDefault name (Node.orNull ResourceSpec.read) none) :=
    heedless_withDefault other _ _
  have env {name : String} (other : name ≠ "workspace_id") :
      Heedless "workspace_id" (Shape.withDefault name (Node.list EnvVar.read) []) :=
    heedless_withDefault other _ _
  have front := (text (show "pod_name" ≠ _ by decide)).map RunRequest.mk
    |>.seq (texts (show "labels" ≠ _ by decide))
    |>.seq (texts (show "annotations" ≠ _ by decide))
    |>.seq (texts (show "node_selectors" ≠ _ by decide))
    |>.seq (text (show "orchestrator_image" ≠ _ by decide))
    |>.seq (heedless_withDefault (show "source_image" ≠ _ by decide) Node.text "")
    |>.seq (text (show "destination_image" ≠ _ by decide))
    |>.seq (spec (show "orchestrator_resources" ≠ _ by decide))
    |>.seq (spec (show "source_resources" ≠ _ by decide))
    |>.seq (spec (show "destination_resources" ≠ _ by decide))
    |>.seq (env (show "orchestrator_env" ≠ _ by decide))
    |>.seq (env (show "source_env" ≠ _ by decide))
    |>.seq (env (show "destination_env" ≠ _ by decide))
    |>.seq (heedless_withDefault (show "file_transfer" ≠ _ by decide) Node.flag false)
  have fills : Fills "workspace_id" Uuid.read _ overWorkspace := fills_required front <|
    .seq <| .seq <| .seq <| .seq <| .seq <| .seq <| .seq <| .seq <| .seq <| .seq <| .seq <| .seq <|
      .seq <| .map fun _ _ _ _ _ _ _ _ _ _ _ _ _ _ _ _ => rfl
  exact carries_record fills (by decide) (by decide) isPlace

theorem FlagOverride.carries_context {place : Node → Node}
    (isPlace : FieldPlace (forms.map FieldForm.name) "context" place) :
    Carries place FlagOverride.read Uuid.read overContext := by
  have flag : Heedless "context" (Shape.required "flag" Node.text) :=
    heedless_required (by decide) Node.text
  have value : Heedless "context" (Shape.required "value" FlagValue.read) :=
    heedless_required (by decide) FlagValue.read
  have fills : Fills "context" Uuid.read _ overContext :=
    (fills_required (flag.map FlagOverride.mk) (.map fun _ _ _ => rfl)).seq value
  exact carries_record fills (by decide) (by decide) isPlace

theorem FlagSettings.carries_overrides {place : Node → Node}
    (isPlace : FieldPlace (forms.map FieldForm.name) "overrides" place) :
    Carries place FlagSettings.read (Node.list FlagOverride.read) overOverrides := by
  have values : Heedless "overrides" (Shape.withDefault "values" (Node.dict FlagValue.read) ∅) :=
    heedless_withDefault (by decide) _ _
  have fills : Fills "overrides" (Node.list FlagOverride.read) _ overOverrides :=
    fills_withDefault [] (values.map FlagSettings.mk) (.map fun _ _ _ => rfl)
  exact carries_record fills (by decide) (by decide) isPlace

theorem Settings.carries_flags {place : Node → Node}
    (isPlace : FieldPlace (forms.map FieldForm.name) "feature_flags" place) :
    Carries place Settings.read FlagSettings.read overFlags := by
  have dataPlane : Heedless "feature_flags" (Shape.required "data_plane" Node.text) :=
    heedless_required (by decide) _
  have cluster : Heedless "feature_flags" (Shape.required "kubernetes" ClusterSettings.read) :=
    heedless_required (by decide) _
  have scripts : Heedless "feature_flags"
      (Shape.withDefault "scripts" Conventions.read Conventions.builtIn) :=
    heedless_withDefault (by decide) _ _
  have tracking : Heedless "feature_flags"
      (Shape.optional "sentry" (Node.orNull ErrorTracking.read)) :=
    heedless_optional (by decide) _
  have fills : Fills "feature_flags" FlagSettings.read _ overFlags :=
    fills_withDefault FlagSettings.none ((dataPlane.map Settings.mk).seq cluster)
      (.seq <| .map fun _ _ _ _ => rfl) |>.seq scripts |>.seq tracking
  exact carries_record fills (by decide) (by decide) isPlace

/-! ## Overrides for one workspace -/

namespace FlagSettings

/-- With another context for the override at a place. -/
def withContext (s : FlagSettings) (i : Nat) (id : Uuid) : FlagSettings :=
  s.overOverrides (·.modify i (·.overContext fun _ => id))

/-- The override at a place is the only one of a flag. -/
def OnlyOverride (s : FlagSettings) (i : Nat) (key : String) : Prop :=
  ∃ before o after, s.overrides = before ++ o :: after ∧ before.length = i ∧ o.flag = key ∧
    ∀ other ∈ before ++ after, other.flag ≠ key

/-- The override at a place decides on a flag in a context: its value, whatever that is, is the
flag's. -/
def DecidedBy (s : FlagSettings) (i : Nat) (key : String) (id : Uuid) : Prop :=
  ∀ value, (s.overOverrides (·.modify i ({ · with value }))).lookup key id = some value

variable {s : FlagSettings} {i : Nat} {key : String} {id context : Uuid}

theorem modify_append_cons {α : Type} (before : List α) (x : α) (after : List α)
    (change : α → α) :
    (before ++ x :: after).modify before.length change = before ++ change x :: after := by
  induction before with
  | nil => rfl
  | cons first before ih => rw [List.cons_append, List.length_cons, List.modify_succ_cons, ih]; rfl

theorem lookup_of_only {values : Dict FlagValue} {before after : List FlagOverride}
    {o : FlagOverride} (isFlag : o.flag = key)
    (others : ∀ other ∈ before ++ after, other.flag ≠ key) :
    FlagSettings.lookup ⟨values, before ++ o :: after⟩ key id =
      if o.context = id then some o.value else values.get? key := by
  obtain ⟨earlier, later⟩ := List.forall_mem_append.mp others
  split
  · next same =>
    exact inForce_iff.mp <|
      .overridden rfl ⟨isFlag, same⟩ fun other member isFor => earlier other member isFor.1
  · next different =>
    refine inForce_iff.mp (.general fun other member isFor => ?_)
    rcases List.mem_append.mp member with before | behind
    · exact earlier other before isFor.1
    · rcases List.mem_cons.mp behind with rfl | after
      · exact different isFor.2
      · exact later other after isFor.1

theorem lookup_withContext (only : s.OnlyOverride i key) (different : context ≠ id) :
    (s.withContext i context).lookup key id = s.values.get? key := by
  obtain ⟨before, o, after, split, rfl, isFlag, others⟩ := only
  have contexts : s.withContext before.length context =
      ⟨s.values, before ++ { o with context } :: after⟩ := by
    rw [withContext, overOverrides, split, modify_append_cons]
    rfl
  have moved : ({ o with context } : FlagOverride).flag = key := isFlag
  rw [contexts, lookup_of_only moved others]
  exact if_neg different

theorem decidedBy_withContext (only : s.OnlyOverride i key) :
    (s.withContext i context).DecidedBy i key id ↔ context = id := by
  obtain ⟨before, o, after, split, rfl, isFlag, others⟩ := only
  have looked (value : FlagValue) :
      ((s.withContext before.length context).overOverrides
          (·.modify before.length ({ · with value }))).lookup key id =
        if context = id then some value else s.values.get? key := by
    have overrides : (s.withContext before.length context).overOverrides
          (·.modify before.length ({ · with value })) =
        ⟨s.values, before ++ { o with context, value } :: after⟩ := by
      rw [withContext, overOverrides, overOverrides, split, modify_append_cons,
        modify_append_cons]
      rfl
    have moved : ({ o with context, value } : FlagOverride).flag = key := isFlag
    rw [overrides, lookup_of_only moved others]
  constructor
  · intro decided
    refine Decidable.byContradiction fun different => ?_
    have on := decided (.bool true)
    have off := decided (.bool false)
    rw [looked, if_neg different] at on off
    cases on.symm.trans off
  · rintro rfl value
    rw [looked, if_pos rfl]

end FlagSettings

/-! ## Texts -/

/-- A text of a node in which an identifier is spelled in some way at a place. -/
def SpelledWith (place : Node → Node) (id : Uuid) (text : String) : Prop :=
  ∃ s, Uuid.Spells s id ∧ Spelled 0 (place (.string s)) text.toList

/-- An identifier is read from each of its spellings, whatever it is read from. -/
theorem Uuid.read_of_spells {N E : Type} [Source N E] {node : N} {s : String} {id : Uuid}
    (isText : (Source.text "a formatted UUID string" node : Except E String) = .ok s)
    (spells : Spells s id) : (Uuid.read node : Except E Uuid) = .ok id := by
  rw [Uuid.read, isText, ok_bind, parse_eq_ok_iff.mpr spells]
  rfl

theorem readText_of_spelledWith {α : Type} {place : Node → Node} {read : Reader α}
    {lift : (Uuid → Uuid) → α → α} (carries : Carries place read Uuid.read lift) {node : Node}
    {x : α} (reads : read (place node) = .ok x) {id : Uuid} {text : String}
    (spelled : SpelledWith place id text) : readText read text = .ok (lift (fun _ => id) x) := by
  obtain ⟨s, spells, spelled⟩ := spelled
  rw [readText_of_spelled read spelled]
  exact carries _ node (.string s) (fun _ _ => Uuid.read_of_spells rfl spells) x reads

/-- With another context for the override at a place. -/
def Settings.withContext (s : Settings) (i : Nat) (id : Uuid) : Settings :=
  s.overFlags (·.withContext i id)

theorem Settings.carries_context {i : Nat} {place : Node → Node} (isPlace : ContextPlace i place) :
    ∃ lift, Carries place Settings.read Uuid.read lift ∧
      ∀ s id, lift (fun _ => id) s = s.withContext i id := by
  cases isPlace with
  | within inSettings inFlags inOverrides inOverride =>
      exact ⟨_, (carries_flags inSettings).comp <| (FlagSettings.carries_overrides inFlags).comp <|
        (carries_list inOverrides).comp (FlagOverride.carries_context inOverride),
        fun _ _ => rfl⟩

/-- The pod of the run that texts of settings and of a request ask for, with its manifest, or why
there is none. -/
def builtFromTexts (kind : RunKind) (settingsText requestText : String) :
    Except (Failure ⊕ BuildError) (Pod × String) := do
  let settings ← (readText Settings.read settingsText).mapError .inl
  let request ← (readText RunRequest.read requestText).mapError .inl
  let pod ← (settings.buildPod kind request).mapError .inr
  return (pod, pod.manifest)

/-- The variable by which the init container of a pod learns its workspace has a value. -/
def Pod.NamesWorkspace (pod : Pod) (value : String) : Prop :=
  ∃ spec init env, pod.spec = some spec ∧ spec.initContainers = [init] ∧
    init.env = env ++ [EnvVar.plain "WORKSPACE_ID" value]

theorem Settings.namesWorkspace_of_buildPod {settings : Settings} {kind : RunKind}
    {request : RunRequest} {pod : Pod} (built : settings.buildPod kind request = .ok pod) :
    pod.NamesWorkspace request.workspaceId.text := by
  obtain ⟨_, rfl⟩ := buildPod_eq_ok_iff.mp built
  exact ⟨_, _, request.orchestratorEnv, rfl, rfl, rfl⟩

/-- A request for a workspace and settings whose only override of the flag is for some workspace
are read from all texts that spell the two identifiers in some way. The override decides on the
flag just if the identifiers are the same; what is built and rendered does not depend on the
spellings, and the pod names the workspace in small letters and groups. -/
theorem workspace_by_value {requestAt settingsAt : Node → Node} {i : Nat}
    (requestPlace : RunRequest.WorkspacePlace requestAt)
    (settingsPlace : Settings.ContextPlace i settingsAt) {node node' : Node}
    {request : RunRequest} {settings : Settings}
    (isRequest : RunRequest.read (requestAt node) = .ok request)
    (isSettings : Settings.read (settingsAt node') = .ok settings)
    (only : settings.flags.OnlyOverride i "remove-service-account") (workspace other : Uuid) :
    ∃ request' settings',
      request' = { request with workspaceId := workspace } ∧
      settings' = settings.withContext i other ∧
      (∀ t, SpelledWith requestAt workspace t → readText RunRequest.read t = .ok request') ∧
      (∀ t, SpelledWith settingsAt other t → readText Settings.read t = .ok settings') ∧
      (settings'.flags.DecidedBy i "remove-service-account" request'.workspaceId ↔
        workspace = other) ∧
      (workspace ≠ other → settings'.flags.lookup "remove-service-account" request'.workspaceId =
        settings.flags.values.get? "remove-service-account") ∧
      (∀ kind t t' u u', SpelledWith settingsAt other t → SpelledWith settingsAt other t' →
        SpelledWith requestAt workspace u → SpelledWith requestAt workspace u' →
          builtFromTexts kind t u = builtFromTexts kind t' u') ∧
      (∀ kind pod, settings'.buildPod kind request' = .ok pod →
        pod.NamesWorkspace workspace.text) ∧
      workspace.text.toList =
        Uuid.group [8, 4, 4, 4, 12] (Uuid.hexDigits 32 workspace.bits.toNat) ∧
      Uuid.parse workspace.text = .ok workspace := by
  obtain ⟨lift, carries, isContext⟩ := Settings.carries_context settingsPlace
  have requests (t : String) (spelled : SpelledWith requestAt workspace t) :
      readText RunRequest.read t = .ok { request with workspaceId := workspace } :=
    readText_of_spelledWith (RunRequest.carries_workspace requestPlace) isRequest spelled
  have configured (t : String) (spelled : SpelledWith settingsAt other t) :
      readText Settings.read t = .ok (settings.withContext i other) := by
    rw [← isContext]
    exact readText_of_spelledWith carries isSettings spelled
  refine ⟨{ request with workspaceId := workspace }, settings.withContext i other, rfl, rfl,
    requests, configured, ?_, ?_, ?_, ?_, workspace.toList_text, workspace.parse_text⟩
  · exact (FlagSettings.decidedBy_withContext only).trans eq_comm
  · intro different
    exact FlagSettings.lookup_withContext only different.symm
  · intro kind t t' u u' spelled spelled' named named'
    rw [builtFromTexts, builtFromTexts, configured t spelled, configured t' spelled',
      requests u named, requests u' named']
  · intro kind pod built
    have names := Settings.namesWorkspace_of_buildPod built
    exact names

namespace Sample

/-- The members of a request but for its workspace. -/
def namelessMembers : List (String × Value) :=
  [("pod_name", .string "job-9"), ("orchestrator_image", .string "orchestrator:1"),
    ("destination_image", .string "destination:1")]

def workspaceText (s : String) : String :=
  (Value.object (("workspace_id", .string s) :: namelessMembers)).compact

def workspaceAt (node : Node) : Node :=
  .object (.closed
    ([] ++ (.ok "workspace_id", node) :: namelessMembers.map fun m => (.ok m.1, m.2.node 1)))

theorem spelledWith_workspaceText {s : String} {id : Uuid} (spells : Uuid.Spells s id) :
    SpelledWith workspaceAt id (workspaceText s) := by
  refine ⟨s, spells, ?_⟩
  have spelled : Spelled 0 _ (workspaceText s).toList :=
    spelled_compact (by simp [namelessMembers]) 0
  rw [node_object (by decide)] at spelled
  exact spelled

/-- Settings with overrides, of which the second is written as a list. -/
def contextText (s : String) : String :=
  (Value.object [("data_plane", .string "local"),
    ("kubernetes", .object [("namespace", .string "jobs"), ("init_image", .string "init:1")]),
    ("feature_flags", .object [("overrides", .array
      [.array [.string "other-flag", .string Uuid.nil.text, .bool false],
        .array [.string "remove-service-account", .string s, .bool true]])])]).compact

def contextAt : Node → Node :=
  (fun node => .object (.closed
    ([(.ok "data_plane", .string "local"), (.ok "kubernetes", .object (.closed
        [(.ok "namespace", .string "jobs"), (.ok "init_image", .string "init:1")]))] ++
      (.ok "feature_flags", node) :: []))) ∘
    (fun node => .object (.closed ([] ++ (.ok "overrides", node) :: []))) ∘
    (fun node => .array (.closed
      ([.array (.closed [.string "other-flag", .string Uuid.nil.text, .bool false])] ++
        node :: []))) ∘
    fun node => .array (.closed ([.string "remove-service-account"] ++ node :: [.bool true]))

theorem spelledWith_contextText {s : String} {id : Uuid} (spells : Uuid.Spells s id) :
    SpelledWith contextAt id (contextText s) := by
  refine ⟨s, spells, ?_⟩
  have spelled : Spelled 0 _ (contextText s).toList := spelled_compact (by simp) 0
  rw [node_object (by decide)] at spelled
  exact spelled

theorem contextPlace_contextAt : Settings.ContextPlace 1 contextAt := by
  have second := @ItemPlace.item 1
    [.array (.closed [.string "other-flag", .string Uuid.nil.text, .bool false])] rfl []
  have context := @FieldPlace.item (FlagOverride.forms.map FieldForm.name) "context"
    [.string "remove-service-account"] rfl [.bool true]
  exact .within (.member _ _) (.member _ _) second context

def overriding : Settings :=
  { bareSettings with
    flags :=
      ⟨∅, [⟨"other-flag", Uuid.nil, .bool false⟩,
        ⟨"remove-service-account", Uuid.nil, .bool true⟩]⟩ }

end Sample

theorem workspace_by_value_mixedCase :
    ∃ request settings,
      readText RunRequest.read
          (Sample.workspaceText "{00000000-0000-0000-0000-00000000000A}") = .ok request ∧
        readText Settings.read
          (Sample.contextText "URN:uuid:00000000-0000-0000-0000-00000000000a") = .ok settings ∧
        settings.flags.DecidedBy 1 "remove-service-account" request.workspaceId ∧
        Uuid.parse (Uuid.text ⟨10⟩) = .ok ⟨10⟩ := by
  have isRequest : RunRequest.read (Sample.workspaceAt (.string Uuid.nil.text)) =
      .ok Sample.bareRequest := by
    decide
  have isSettings : Settings.read (Sample.contextAt (.string Uuid.nil.text)) =
      .ok Sample.overriding := by
    decide
  have only : Sample.overriding.flags.OnlyOverride 1 "remove-service-account" :=
    ⟨[⟨"other-flag", Uuid.nil, .bool false⟩], _, [], rfl, rfl, rfl, by simp⟩
  obtain ⟨request, settings, -, -, requests, configured, decided, -, -, -, -, parsed⟩ :=
    workspace_by_value (.member _ _) Sample.contextPlace_contextAt isRequest isSettings only ⟨10⟩
      ⟨10⟩
  exact ⟨request, settings, requests _ (Sample.spelledWith_workspaceText (by decide)),
    configured _ (Sample.spelledWith_contextText (by decide)), decided.mpr rfl, parsed⟩

end SyncPods
