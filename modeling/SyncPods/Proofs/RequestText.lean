import SyncPods.Proofs.PodText
import SyncPods.Proofs.ReadBack
import SyncPods.Run.Request

/-!
# Requests and their texts

A request is read back from the text that is written for it. So every text of a request has one
canonical text that stands for the same request and stays as it is when it is read and written.
-/

namespace SyncPods

open Json

variable {depth : Nat}

/-! ## Variables -/

section Resource

variable {α : Type} (name : String) (read : Reader α)

instance : (resourceText name).Lawful :=
  inferInstanceAs ((·.getD "") <$> Shape.optional name (Node.orNull Node.text)).Lawful

instance : (resourcePart name read).Lawful :=
  inferInstanceAs (Shape.optional name (Node.orNull read)).Lawful

@[simp]
theorem build_resourceText (found : Found Node Failure) :
    (resourceText name).build found =
      (Shape.optional name (Node.orNull Node.text)).build found >>= fun s => .ok (s.getD "") :=
  Shape.build_map _ _ found

@[simp]
theorem build_resourcePart (found : Found Node Failure) :
    (resourcePart name read).build found = (Shape.optional name (Node.orNull read)).build found :=
  rfl

end Resource

theorem KeySelector.read_node (type : String) (shallow : depth < depthLimit) (s : KeySelector) :
    read type (s.json.node depth) = .ok s := by
  apply resource_written shallow rfl (by simp)
  simp

theorem FieldSelector.read_node (shallow : depth < depthLimit) (s : FieldSelector) :
    read (s.json.node depth) = .ok s := by
  apply resource_written shallow rfl (by simp)
  simp

theorem ResourceSelector.read_node (shallow : depth < depthLimit) (s : ResourceSelector) :
    read (s.json.node depth) = .ok s := by
  apply resource_written shallow rfl (by simp)
  simp

theorem EnvSource.read_node (shallow : depth + 1 < depthLimit) (s : EnvSource) :
    read (s.json.node depth) = .ok s := by
  apply resource_written (Nat.lt_of_succ_lt shallow) rfl (by simp)
  simp [elim_orNull_node nofun (KeySelector.read_node "ConfigMapKeySelector" shallow),
    elim_orNull_node nofun (FieldSelector.read_node shallow),
    elim_orNull_node nofun (ResourceSelector.read_node shallow),
    elim_orNull_node nofun (KeySelector.read_node "SecretKeySelector" shallow)]

theorem EnvVar.read_node (shallow : depth + 2 < depthLimit) (v : EnvVar) :
    read (v.json.node depth) = .ok v := by
  apply resource_written (by omega) rfl (by simp)
  simp [elim_orNull_node nofun (EnvSource.read_node shallow)]

/-! ## Requests -/

namespace ResourceSpec

instance (name : String) (read : Reader String) : (resourceField name read).Lawful :=
  inferInstanceAs (Shape.optional name (Node.orNull read)).Lawful

@[simp]
theorem build_resourceField (name : String) (read : Reader String)
    (found : Found Node Failure) :
    (resourceField name read).build found =
      (Shape.optional name (Node.orNull read)).build found :=
  rfl

@[simp]
theorem exact_json (s : ResourceSpec) : s.json.Exact := by
  simp [json]

theorem read_node (shallow : depth < depthLimit) (s : ResourceSpec) :
    read (s.json.node depth) = .ok s := by
  apply object_written shallow rfl (by simp)
  simp

end ResourceSpec

namespace RunRequest

theorem read_node (shallow : depth + 4 < depthLimit) (r : RunRequest) :
    read (r.json.node depth) = .ok r := by
  have below : depth + 1 < depthLimit := by omega
  have belowLists : depth + 2 + 2 < depthLimit := by omega
  apply record_written (by omega) rfl (by simp)
  simp [elim_orNull_node nofun (ResourceSpec.read_node below), dict_ofDict below,
    list_written below fun v _ => EnvVar.read_node belowLists v, uuid_text]

theorem exact_json (r : RunRequest) : r.json.Exact := by
  simp [json]

/-- The text that is written for a request. -/
def text (r : RunRequest) : String := r.json.compact

theorem readText_text (r : RunRequest) : readText read r.text = .ok r := by
  rw [text, readText_compact read r.exact_json]
  exact read_node (by decide) r

/-- A text of a request that stays as it is when it is read and written again. -/
def IsCanonical (t : String) : Prop := (readText read t).map text = .ok t

/-- A request is read back from its text, and of all texts that stand for one request a single one
is canonical. -/
theorem text_canonical :
    (∀ r, readText read r.text = .ok r) ∧
      ∀ t r, readText read t = .ok r → ∃! c, readText read c = .ok r ∧ IsCanonical c := by
  refine ⟨readText_text, fun t r _ => ⟨r.text, ⟨readText_text r, ?_⟩, ?_⟩⟩
  · show (readText read r.text).map text = .ok r.text
    rw [readText_text]
    rfl
  · rintro c ⟨same, canonical⟩
    have written : (readText read c).map text = .ok r.text := by
      rw [same]
      rfl
    exact Except.ok.inj (canonical.symm.trans written)

end RunRequest

/-- A text of a request as an array, with blanks, a label twice, a control character, and the
identifier in another spelling than the canonical one. -/
def Sample.listedText : String :=
  "[\"job-8\", \x7b\"mark\": \"8\", \"bell\": \"\\u0007\", \"mark\": \"\\\\\"\x7d, " ++
    "\x7b\x7d, \x7b\x7d, " ++
    "\"orchestrator:1\", \"\", \"destination:1\", null, null, " ++
    "[null, \"1\", null, null, null, null], [], [], " ++
    "[\x7b\"valueFrom\": \x7b\x7d, \"name\": \"EMPTY\"\x7d], true, " ++
    "\"urn:uuid:00000000-0000-0000-0000-00000000000A\"]"

/-- The request that the text stands for. -/
def Sample.listedRequest : RunRequest where
  podName := "job-8"
  labels := Dict.ofList [("mark", "\\"), ("bell", "\x07")]
  annotations := ∅
  nodeSelectors := ∅
  orchestratorImage := "orchestrator:1"
  sourceImage := ""
  destinationImage := "destination:1"
  orchestratorResources := none
  sourceResources := none
  destinationResources := some ⟨none, some "1", none, none, none, none⟩
  orchestratorEnv := []
  sourceEnv := []
  destinationEnv := [⟨"EMPTY", none, some ⟨none, none, none, none⟩⟩]
  fileTransfer := true
  workspaceId := ⟨10⟩

theorem RunRequest.text_canonical_listedText :
    readText read Sample.listedText = .ok Sample.listedRequest ∧
      ∃! c, readText read c = .ok Sample.listedRequest ∧ IsCanonical c := by
  have listed : readText read Sample.listedText = .ok Sample.listedRequest := by
    decide +kernel
  exact ⟨listed, text_canonical.2 Sample.listedText Sample.listedRequest listed⟩

end SyncPods
