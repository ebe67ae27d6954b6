import SyncPods.Proofs.BuiltPod
import SyncPods.Proofs.PodText
import SyncPods.Proofs.ReadBack
import SyncPods.Settings.Basic

/-!
# Settings and their texts

Settings are read back from the text that is written for them, so they pass the same checks and make
the same pods before and after.
-/

namespace SyncPods

open Json

variable {depth : Nat}

/-! ## Nodes as a source -/

section Source

@[simp]
theorem source_string : (Source.string : Reader String) = Node.text := rfl

@[simp]
theorem source_optionalString :
    (Source.optionalString : Reader (Option String)) = Node.orNull Node.text := rfl

@[simp]
theorem source_int64 : (Source.int64 : Reader Int) = Node.int64 := rfl

variable {α : Type} (read : Reader α)

@[simp]
theorem source_orNull : Source.orNull read = Node.orNull read := rfl

@[simp]
theorem source_list : Source.list read = Node.list read := rfl

@[simp]
theorem source_dict : Source.dict read = Node.dict read := rfl

end Source

/-! ## The cluster -/

/-- The identifiers are whole numbers of 64 bits. -/
structure RunAs.Fits64 (r : RunAs) : Prop where
  user : -2 ^ 63 ≤ r.user ∧ r.user < 2 ^ 63
  group : -2 ^ 63 ≤ r.group ∧ r.group < 2 ^ 63
  fsGroup : -2 ^ 63 ≤ r.fsGroup ∧ r.fsGroup < 2 ^ 63

theorem int64_ofInt {n : Int} (fits : -2 ^ 63 ≤ n ∧ n < 2 ^ 63) (depth : Nat) :
    Node.int64 ((Value.ofInt n).node depth) = .ok n := by
  have exact : (wholeText n).value? = some (.integer n) :=
    value?_wholeText fits.1 (by omega)
  have within : -Int.ofNat (Nat.pow 2 63) ≤ n ∧ n ≤ Int.ofNat (Nat.pow 2 63) - 1 := by
    have power : Int.ofNat (Nat.pow 2 63) = 2 ^ 63 := rfl
    omega
  rw [Value.ofInt, Value.node, exact, Node.ofNumber, Node.int64, Node.wholeNumber]
  exact if_pos within

theorem RunAs.read_node (shallow : depth < depthLimit) {r : RunAs} (fits : r.Fits64) :
    RunAs.read (r.json.node depth) = .ok r := by
  apply object_written shallow rfl (by simp)
  simp [int64_ofInt fits.user, int64_ofInt fits.group, int64_ofInt fits.fsGroup]

theorem Toleration.read_node (shallow : depth < depthLimit) (t : Toleration) :
    Toleration.read (t.settingsJson.node depth) = .ok t := by
  apply object_written shallow rfl (by simp)
  simp

namespace ClusterSettings

instance (name : String) : (optionalText name : Shape Node Failure _).Lawful :=
  inferInstanceAs (Shape.withDefault name Source.optionalString none).Lawful

@[simp]
theorem build_optionalText (name : String) (found : Found Node Failure) :
    (optionalText name).build found =
      (Shape.withDefault name (Node.orNull Node.text) none).build found := rfl

theorem read_node (shallow : depth + 2 < depthLimit) {s : ClusterSettings}
    (fits : s.runAs.Fits64) : ClusterSettings.read (s.json.node depth) = .ok s := by
  have below : depth + 1 < depthLimit := by omega
  apply record_written (by omega) rfl (by simp)
  have secrets : Node.list Node.text ((Value.ofStrings s.imagePullSecrets).node (depth + 1)) =
      .ok s.imagePullSecrets := list_written below fun name _ => text_string name _
  simp [secrets, list_written below fun t _ => Toleration.read_node shallow t,
    RunAs.read_node below fits]

end ClusterSettings

/-! ## Flags -/

theorem FlagValue.read_node (v : FlagValue) (depth : Nat) :
    FlagValue.read (v.json.node depth) = .ok v := by
  cases v <;> rfl

theorem FlagOverride.read_node (shallow : depth < depthLimit) (o : FlagOverride) :
    FlagOverride.read (o.json.node depth) = .ok o := by
  apply object_written shallow rfl (by simp)
  simp [FlagValue.read_node, uuid_text]

theorem FlagSettings.read_node (shallow : depth + 2 < depthLimit) (s : FlagSettings) :
    FlagSettings.read (s.json.node depth) = .ok s := by
  have below : depth + 1 < depthLimit := by omega
  apply object_written (by omega) rfl (by simp)
  simp [dict_written below fun v => FlagValue.read_node v _,
    list_written below fun o _ => FlagOverride.read_node shallow o]

@[simp]
theorem FlagValue.exact_json (v : FlagValue) : v.json.Exact := by
  cases v with
  | bool b => exact .bool b
  | text s => exact .string s

@[simp]
theorem FlagSettings.exact_json (s : FlagSettings) : s.json.Exact := by
  have values : (Value.object (s.values.entries.map fun entry => (entry.1, entry.2.json))).Exact := by
    rw [Value.exact_object_iff, List.forall_mem_map]
    exact fun entry _ => entry.2.exact_json
  have overrides : (Value.array (s.overrides.map FlagOverride.json)).Exact := by
    simp [FlagOverride.json]
  rw [json, Value.exact_object_iff]
  exact List.forall_mem_cons.mpr ⟨values, List.forall_mem_singleton.mpr overrides⟩

/-! ## Settings -/

namespace Conventions

instance (name : String) (value : Conventions → String) :
    (textField name value : Shape Node Failure _).Lawful :=
  inferInstanceAs (Shape.withDefault name Source.string (value builtIn)).Lawful

@[simp]
theorem build_textField (name : String) (value : Conventions → String)
    (found : Found Node Failure) :
    (textField name value).build found =
      (Shape.withDefault name Node.text (value builtIn)).build found := rfl

theorem read_node (shallow : depth < depthLimit) (c : Conventions) :
    Conventions.read (c.json.node depth) = .ok c := by
  apply object_written shallow rfl (by simp)
  simp

end Conventions

theorem ErrorTracking.read_node (shallow : depth < depthLimit) (t : ErrorTracking) :
    ErrorTracking.read (t.json.node depth) = .ok t := by
  apply object_written shallow rfl (by simp)
  simp

namespace Settings

theorem read_node (shallow : depth + 3 < depthLimit) {s : Settings}
    (fits : s.cluster.runAs.Fits64) : Settings.read (s.json.node depth) = .ok s := by
  have below : depth + 1 < depthLimit := by omega
  have belowLists : depth + 1 + 2 < depthLimit := by omega
  apply record_written (by omega) rfl (by simp)
  simp [ClusterSettings.read_node belowLists fits, FlagSettings.read_node belowLists,
    Conventions.read_node below, elim_orNull_node nofun (ErrorTracking.read_node below)]

theorem exact_json (s : Settings) : s.json.Exact := by
  simp [json, ClusterSettings.json, Toleration.settingsJson, RunAs.json, Conventions.json,
    ErrorTracking.json]

/-- The text that is written for settings. -/
def text (s : Settings) : String := s.json.compact

/-- Settings are read back from their text, and what is read from it has the same verdict and makes
the same pods. -/
theorem text_faithful {s : Settings} (fits : s.cluster.runAs.Fits64) :
    readText read s.text = .ok s ∧
      ∀ s', readText read s.text = .ok s' →
        s'.invalid? = s.invalid? ∧
          ∀ kind request, s'.buildPod kind request = s.buildPod kind request := by
  have back : readText read s.text = .ok s := by
    rw [text, readText_compact read s.exact_json]
    exact read_node (by decide) fits
  refine ⟨back, fun s' again => ?_⟩
  obtain rfl := Except.ok.inj (back.symm.trans again)
  exact ⟨rfl, fun kind request => rfl⟩

end Settings

/-- The sample's settings with identifiers at both ends of their range, and with a text and a truth
value that a flag could confuse. -/
def Sample.extremeSettings : Settings :=
  { settings with
    cluster :=
      { settings.cluster with
        tolerations := [⟨some "dedicated", none, some "jobs\n", none⟩, ⟨none, none, none, none⟩]
        runAs := ⟨-2 ^ 63, 2 ^ 63 - 1, 0⟩ }
    flags := ⟨Dict.ofList [("b", .text "true"), ("a", .bool true)], settings.flags.overrides⟩
    errorTracking := some ⟨"errors"⟩ }

theorem Settings.text_faithful_extremeSettings :
    Sample.extremeSettings.cluster.runAs.Fits64 ∧
      readText read Sample.extremeSettings.text = .ok Sample.extremeSettings ∧
      ∀ s', readText read Sample.extremeSettings.text = .ok s' →
        s'.invalid? = Sample.extremeSettings.invalid? ∧
          ∀ kind request,
            s'.buildPod kind request = Sample.extremeSettings.buildPod kind request := by
  have fits : Sample.extremeSettings.cluster.runAs.Fits64 := by
    constructor <;> decide
  exact ⟨fits, text_faithful fits⟩

end SyncPods
