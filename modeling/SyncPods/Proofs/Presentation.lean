import Mathlib.Logic.Relation
import SyncPods.Proofs.ReadBack
import SyncPods.Proofs.RecordEdit
import SyncPods.Proofs.RequestText
import SyncPods.Proofs.SettingsText

/-!
# The presentation of requests and settings

Requests and settings are read as before when the members of their objects come in another order,
when there are members among them that are no fields, and when fields are left out that hold their
defaults.
-/

namespace SyncPods

open Json

/-! ## The fields of each record -/

def ResourceSpec.forms : List FieldForm :=
  ["cpu_request", "cpu_limit", "memory_request", "memory_limit", "ephemeral_storage_request",
    "ephemeral_storage_limit"].map fun name => .defaulted name (Node.orNull Node.text) none

def RunRequest.forms : List FieldForm :=
  let spec (name : String) : FieldForm :=
    .defaulted name (Node.orNull ResourceSpec.read) none (RecordEdit ResourceSpec.forms)
  [.required "pod_name", .defaulted "labels" (Node.dict Node.text) ∅,
    .defaulted "annotations" (Node.dict Node.text) ∅,
    .defaulted "node_selectors" (Node.dict Node.text) ∅, .required "orchestrator_image",
    .defaulted "source_image" Node.text "", .required "destination_image",
    spec "orchestrator_resources", spec "source_resources", spec "destination_resources",
    .defaulted "orchestrator_env" (Node.list EnvVar.read) [],
    .defaulted "source_env" (Node.list EnvVar.read) [],
    .defaulted "destination_env" (Node.list EnvVar.read) [],
    .defaulted "file_transfer" Node.flag false, .required "workspace_id"]

def RunAs.forms : List FieldForm :=
  ["run_as_user", "run_as_group", "fs_group"].map fun name => .defaulted name Node.int64 1000

def Toleration.forms : List FieldForm :=
  ["key", "operator", "value", "effect"].map fun name =>
    .defaulted name (Node.orNull Node.text) none

def ClusterSettings.forms : List FieldForm :=
  [.required "namespace", .defaulted "service_account" (Node.orNull Node.text) none,
    .defaulted "image_pull_secrets" (Node.list Node.text) [],
    .defaulted "image_pull_policy" (Node.orNull Node.text) none, .required "init_image",
    .defaulted "connector_secret_name" (Node.orNull Node.text) none,
    .defaulted "tolerations" (Node.list Toleration.read) []
      (ListEdit (RecordEdit Toleration.forms)),
    .defaulted "security" RunAs.read RunAs.builtIn (RecordEdit RunAs.forms)]

def FlagOverride.forms : List FieldForm :=
  [.required "flag", .required "context", .required "value"]

def FlagSettings.forms : List FieldForm :=
  [.defaulted "values" (Node.dict FlagValue.read) ∅,
    .defaulted "overrides" (Node.list FlagOverride.read) []
      (ListEdit (RecordEdit FlagOverride.forms))]

namespace Conventions

def forms : List FieldForm :=
  [("config_dir", configDir), ("source_dir", sourceDir), ("destination_dir", destinationDir),
    ("staging_dir", stagingDir), ("secrets_dir", secretsDir),
    ("job_output_filename", jobOutputFile), ("exit_code_filename", exitCodeFile),
    ("termination_marker_filename", terminationMarker),
    ("connector_config_filename", connectorConfigFile), ("catalog_filename", catalogFile),
    ("input_state_filename", inputStateFile), ("entrypoint_env_var", entrypointVariable),
    ("sidecar_binary", sidecarBinary)].map fun (name, value) =>
      .defaulted name Node.text (value builtIn)

end Conventions

def ErrorTracking.forms : List FieldForm := [.required "dsn"]

def Settings.forms : List FieldForm :=
  [.required "data_plane", .required "kubernetes" (RecordEdit ClusterSettings.forms),
    .defaulted "feature_flags" FlagSettings.read FlagSettings.none (RecordEdit FlagSettings.forms),
    .defaulted "scripts" Conventions.read Conventions.builtIn (RecordEdit Conventions.forms),
    .defaulted "sentry" (Node.orNull ErrorTracking.read) none (RecordEdit ErrorTracking.forms)]

/-! ## Records under edits -/

theorem ResourceSpec.preserves : Preserves (RecordEdit forms) read := by
  have quantity (name : String) :
      Follows [.defaulted name (Node.orNull Node.text) none] (resourceField name Node.text) :=
    .optional name (unedited _)
  have follows := (quantity "cpu_request").map ResourceSpec.mk |>.seq (quantity "cpu_limit")
    |>.seq (quantity "memory_request") |>.seq (quantity "memory_limit")
    |>.seq (quantity "ephemeral_storage_request") |>.seq (quantity "ephemeral_storage_limit")
  exact preserves_record (by decide) follows

theorem RunRequest.preserves : Preserves (RecordEdit forms) read := by
  have texts (name : String) := Follows.withDefault name ∅ (unedited (Node.dict Node.text))
  have spec (name : String) :=
    Follows.withDefault name none (preserves_orNull ResourceSpec.preserves)
  have env (name : String) := Follows.withDefault name [] (unedited (Node.list EnvVar.read))
  have follows := (Follows.required "pod_name" (unedited Node.text)).map RunRequest.mk
    |>.seq (texts "labels") |>.seq (texts "annotations") |>.seq (texts "node_selectors")
    |>.seq (.required "orchestrator_image" (unedited Node.text))
    |>.seq (.withDefault "source_image" "" (unedited Node.text))
    |>.seq (.required "destination_image" (unedited Node.text))
    |>.seq (spec "orchestrator_resources") |>.seq (spec "source_resources")
    |>.seq (spec "destination_resources") |>.seq (env "orchestrator_env")
    |>.seq (env "source_env") |>.seq (env "destination_env")
    |>.seq (.withDefault "file_transfer" false (unedited Node.flag))
    |>.seq (.required "workspace_id" (unedited Uuid.read))
  exact preserves_record (by decide) follows

theorem RunAs.preserves : Preserves (RecordEdit forms) RunAs.read := by
  have number (name : String) := Follows.withDefault name builtInId (unedited Node.int64)
  have follows := (number "run_as_user").map RunAs.mk |>.seq (number "run_as_group")
    |>.seq (number "fs_group")
  exact preserves_record (by decide) follows

theorem Toleration.preserves : Preserves (RecordEdit forms) Toleration.read := by
  have part (name : String) := Follows.optional name (unedited (Node.orNull Node.text))
  have follows := (part "key").map Toleration.mk |>.seq (part "operator") |>.seq (part "value")
    |>.seq (part "effect")
  exact preserves_record (by decide) follows

theorem ClusterSettings.preserves : Preserves (RecordEdit forms) ClusterSettings.read := by
  have text (name : String) := Follows.required name (unedited Node.text)
  have optional (name : String) :=
    Follows.withDefault name none (unedited (Node.orNull Node.text))
  have follows := (text "namespace").map ClusterSettings.mk |>.seq (optional "service_account")
    |>.seq (.withDefault "image_pull_secrets" [] (unedited (Node.list Node.text)))
    |>.seq (optional "image_pull_policy") |>.seq (text "init_image")
    |>.seq (optional "connector_secret_name")
    |>.seq (.withDefault "tolerations" [] (preserves_list Toleration.preserves))
    |>.seq (.withDefault "security" RunAs.builtIn RunAs.preserves)
  exact preserves_record (by decide) follows

theorem FlagOverride.preserves : Preserves (RecordEdit forms) FlagOverride.read := by
  have follows := (Follows.required "flag" (unedited Node.text)).map FlagOverride.mk
    |>.seq (.required "context" (unedited Uuid.read))
    |>.seq (.required "value" (unedited FlagValue.read))
  exact preserves_record (by decide) follows

theorem FlagSettings.preserves : Preserves (RecordEdit forms) FlagSettings.read := by
  have values := Follows.withDefault "values" ∅ (unedited (Node.dict FlagValue.read))
  have follows := values.map FlagSettings.mk
    |>.seq (.withDefault "overrides" [] (preserves_list FlagOverride.preserves))
  exact preserves_record (by decide) follows

theorem Conventions.preserves : Preserves (RecordEdit forms) Conventions.read := by
  have text (name : String) (value : Conventions → String) :
      Follows [.defaulted name Node.text (value builtIn)] (textField name value) :=
    .withDefault name (value builtIn) (unedited Node.text)
  have follows := (text "config_dir" configDir).map Conventions.mk
    |>.seq (text "source_dir" sourceDir) |>.seq (text "destination_dir" destinationDir)
    |>.seq (text "staging_dir" stagingDir) |>.seq (text "secrets_dir" secretsDir)
    |>.seq (text "job_output_filename" jobOutputFile)
    |>.seq (text "exit_code_filename" exitCodeFile)
    |>.seq (text "termination_marker_filename" terminationMarker)
    |>.seq (text "connector_config_filename" connectorConfigFile)
    |>.seq (text "catalog_filename" catalogFile)
    |>.seq (text "input_state_filename" inputStateFile)
    |>.seq (text "entrypoint_env_var" entrypointVariable)
    |>.seq (text "sidecar_binary" sidecarBinary)
  exact preserves_record (by decide) follows

theorem ErrorTracking.preserves : Preserves (RecordEdit forms) ErrorTracking.read :=
  preserves_record (by decide) <|
    (Follows.required "dsn" (unedited Node.text)).map ErrorTracking.mk

theorem Settings.preserves : Preserves (RecordEdit forms) Settings.read := by
  have tracking := preserves_orNull ErrorTracking.preserves
  have follows := (Follows.required "data_plane" (unedited Node.text)).map Settings.mk
    |>.seq (.required "kubernetes" ClusterSettings.preserves)
    |>.seq (.withDefault "feature_flags" FlagSettings.none FlagSettings.preserves)
    |>.seq (.withDefault "scripts" Conventions.builtIn Conventions.preserves)
    |>.seq (.optional "sentry" tracking)
  exact preserves_record (by decide) follows

/-! ## Texts under edits -/

/-- One edit of a text, which may be spelled afresh with it. -/
def TextEdit (Edit : Node → Node → Prop) (t t' : String) : Prop :=
  ∃ node node', Spelled 0 node t.toList ∧ Spelled 0 node' t'.toList ∧ Edit node node'

theorem skip_within (depth : Nat) (node : Node) : (node.within depth).skip = node.skip := by
  rw [Node.within]
  split <;> rfl

/-- What is spelled can be passed over, even if it cannot be read. -/
theorem skip_of_spelled {depth : Nat} {node : Node} {cs : List Char}
    (spelled : Spelled depth node cs) : node.skip = none := by
  induction spelled with
  | null => rfl
  | true => rfl
  | false => rfl
  | @number _ t _ _ => cases t.value? <;> rfl
  | @string _ pieces _ _ => cases stringOf pieces <;> rfl
  | noItems _ => rw [skip_within, skip_items_iff]; nofun
  | array _ _ ih =>
      rw [skip_within, skip_items_iff, List.forall_mem_map]
      exact ih
  | noMembers _ => rw [skip_within, skip_members_iff]; nofun
  | object _ _ _ ih =>
      rw [skip_within, skip_members_iff, List.forall_mem_map]
      exact ih
  | blankBefore _ _ ih => exact ih
  | blankAfter _ _ ih => exact ih

theorem readText_of_edits {α : Type} {Edit : Node → Node → Prop} {read : Reader α} {t t' : String}
    {x : α} (preserves : Preserves Edit read)
    (edits : Relation.ReflTransGen (TextEdit Edit) t t') (reads : readText read t = .ok x) :
    readText read t' = .ok x := by
  induction edits with
  | refl => exact reads
  | tail _ edit ih =>
      obtain ⟨node, node', before, after, edit⟩ := edit
      rw [readText_of_spelled read before] at ih
      rw [readText_of_spelled read after]
      exact preserves node node' edit (skip_of_spelled after) x ih

/-- A text that is read as a request or as settings is read as the same after any edits of its
presentation. -/
theorem presentation_immaterial :
    (∀ t t' r, Relation.ReflTransGen (TextEdit (RecordEdit RunRequest.forms)) t t' →
      readText RunRequest.read t = .ok r → readText RunRequest.read t' = .ok r) ∧
    ∀ t t' s, Relation.ReflTransGen (TextEdit (RecordEdit Settings.forms)) t t' →
      readText Settings.read t = .ok s → readText Settings.read t' = .ok s :=
  ⟨fun _ _ _ edits reads => readText_of_edits RunRequest.preserves edits reads,
    fun _ _ _ edits reads => readText_of_edits Settings.preserves edits reads⟩

/-- Values whose nodes are one edit apart have texts that are. -/
theorem textEdit_compact {Edit : Node → Node → Prop} {v v' : Value} (exact : v.Exact)
    (exact' : v'.Exact) (edit : Edit (v.node 0) (v'.node 0)) :
    TextEdit Edit v.compact v'.compact :=
  ⟨v.node 0, v'.node 0, spelled_compact exact 0, spelled_compact exact' 0, edit⟩

namespace Sample

/-- The least that a request says. -/
def bareMembers : List (String × Value) :=
  [("pod_name", .string "job-9"), ("orchestrator_image", .string "orchestrator:1"),
    ("destination_image", .string "destination:1"), ("workspace_id", .string Uuid.nil.text)]

def wordyText : String := (Value.object (("file_transfer", .bool false) :: bareMembers)).compact

def mixedText : String :=
  (Value.object (("note", .array [.bool true]) :: bareMembers).reverse).compact

def bareRequest : RunRequest where
  podName := "job-9"
  labels := ∅
  annotations := ∅
  nodeSelectors := ∅
  orchestratorImage := "orchestrator:1"
  sourceImage := ""
  destinationImage := "destination:1"
  orchestratorResources := none
  sourceResources := none
  destinationResources := none
  orchestratorEnv := []
  sourceEnv := []
  destinationEnv := []
  fileTransfer := false
  workspaceId := Uuid.nil

theorem edits_wordyText :
    Relation.ReflTransGen (TextEdit (RecordEdit RunRequest.forms)) wordyText mixedText := by
  let bare := Value.object bareMembers
  let noted := Value.object (("note", .array [.bool true]) :: bareMembers)
  have leftOut : TextEdit (RecordEdit RunRequest.forms) wordyText bare.compact := by
    refine textEdit_compact (by simp [bareMembers]) (by simp [bare, bareMembers]) ?_
    rw [node_object (by decide), node_object (by decide)]
    refine .leaveOut [] (.defaulted "file_transfer" Node.flag false) ?_ rfl
    simp [RunRequest.forms]
  have inserted : TextEdit (RecordEdit RunRequest.forms) bare.compact noted.compact := by
    refine textEdit_compact (by simp [bare, bareMembers]) (by simp [noted, bareMembers]) ?_
    rw [node_object (by decide), node_object (by decide)]
    exact .insert [] (by decide)
  have reordered : TextEdit (RecordEdit RunRequest.forms) noted.compact mixedText := by
    refine textEdit_compact (by simp [noted, bareMembers]) (by simp [bareMembers]) ?_
    rw [node_object (by decide), node_object (by decide)]
    exact .reorder ((List.reverse_perm _).symm.map _)
  exact .tail (.tail (.single leftOut) inserted) reordered

/-- Settings that say who processes run as, with the identifier that holds anyway or without. -/
def runAsText (runAs : List (String × Value)) : String :=
  (Value.object [("data_plane", .string "local"),
    ("kubernetes", .object [("namespace", .string "jobs"), ("init_image", .string "init:1"),
      ("security", .object runAs)])]).compact

def bareSettings : Settings where
  dataPlane := "local"
  cluster := ⟨"jobs", none, [], none, "init:1", none, [], RunAs.builtIn⟩
  flags := FlagSettings.none
  conventions := Conventions.builtIn
  errorTracking := none

theorem edits_runAsText :
    Relation.ReflTransGen (TextEdit (RecordEdit Settings.forms))
      (runAsText [("run_as_user", .ofInt 1000)]) (runAsText []) := by
  refine .single (textEdit_compact (by simp) (by simp) ?_)
  rw [node_object (by decide), node_object (by decide)]
  refine .inside [(.ok "data_plane", .string "local")]
    (.required "kubernetes" (RecordEdit ClusterSettings.forms)) (by simp [Settings.forms]) ?_
  rw [node_object (by decide), node_object (by decide)]
  refine .inside [(.ok "namespace", .string "jobs"), (.ok "init_image", .string "init:1")]
    (.defaulted "security" RunAs.read RunAs.builtIn (RecordEdit RunAs.forms))
    (by simp [ClusterSettings.forms]) ?_
  rw [node_object (by decide), node_object (by decide)]
  refine .leaveOut [] (.defaulted "run_as_user" Node.int64 1000) (by simp [RunAs.forms]) ?_
  exact int64_ofInt (by decide) 4

end Sample

theorem presentation_immaterial_sampleTexts :
    Relation.ReflTransGen (TextEdit (RecordEdit RunRequest.forms)) Sample.wordyText
        Sample.mixedText ∧
      readText RunRequest.read Sample.wordyText = .ok Sample.bareRequest ∧
      readText RunRequest.read Sample.mixedText = .ok Sample.bareRequest ∧
      Relation.ReflTransGen (TextEdit (RecordEdit Settings.forms))
        (Sample.runAsText [("run_as_user", .ofInt 1000)]) (Sample.runAsText []) ∧
      readText Settings.read (Sample.runAsText [("run_as_user", .ofInt 1000)]) =
        .ok Sample.bareSettings ∧
      readText Settings.read (Sample.runAsText []) = .ok Sample.bareSettings := by
  have request : readText RunRequest.read Sample.wordyText = .ok Sample.bareRequest := by
    rw [Sample.wordyText, readText_compact _ (by simp [Sample.bareMembers])]
    decide
  have settings : readText Settings.read (Sample.runAsText [("run_as_user", .ofInt 1000)]) =
      .ok Sample.bareSettings := by
    rw [Sample.runAsText, readText_compact _ (by simp)]
    decide
  exact ⟨Sample.edits_wordyText, request,
    presentation_immaterial.1 _ _ _ Sample.edits_wordyText request, Sample.edits_runAsText,
    settings, presentation_immaterial.2 _ _ _ Sample.edits_runAsText settings⟩

end SyncPods
