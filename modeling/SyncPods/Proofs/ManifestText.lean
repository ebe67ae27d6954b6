import Mathlib.Data.String.Basic
import SyncPods.Proofs.FoundValues
import SyncPods.Proofs.PrettyText
import SyncPods.Proofs.SettingsText
import SyncPods.Proofs.WellFormedPod

/-!
# Manifests are read back

The manifest of a pod and its compact text are two texts of one value: a reader of either finds the
pod's own value. Nothing in a pod is too great, too deep or out of order for that.
-/

namespace SyncPods

open Json

/-! ## Legible values -/

namespace Json

/-- A value that a reader finds as it was written: its numbers are whole and have 64 bits, members
come in the order of their names, and arrays and objects lie in each other at most so many deep. -/
inductive Value.Legible : Nat → Value → Prop
  | null {levels : Nat} : Legible levels .null
  | bool {levels : Nat} (b : Bool) : Legible levels (.bool b)
  | integer {levels : Nat} {n : Int} (lower : -2 ^ 63 ≤ n) (upper : n < 2 ^ 64) :
      Legible levels (.number (.integer n))
  | string {levels : Nat} (s : String) : Legible levels (.string s)
  | array {levels : Nat} {items : List Value} (parts : ∀ item ∈ items, Legible levels item) :
      Legible (levels + 1) (.array items)
  | object {levels : Nat} {members : List (String × Value)} (order : Ascending members)
      (parts : ∀ member ∈ members, Legible levels member.2) :
      Legible (levels + 1) (.object members)

variable {levels : Nat}

theorem found_of_legible {v : Value} (legible : v.Legible levels) : v.Found levels := by
  induction legible with
  | null => exact .null
  | bool b => exact .bool b
  | integer lower upper => exact .number ⟨lower, upper⟩
  | string s => exact .string s
  | array parts ih => exact .array ih
  | object order parts ih => exact .object order ih

theorem exact_of_legible {v : Value} (legible : v.Legible levels) : v.Exact := by
  induction legible with
  | null => exact .null
  | bool b => exact .bool b
  | @integer _ n lower upper => exact .integer n
  | string s => exact .string s
  | array parts ih => exact .array ih
  | object order parts ih => exact .object ih

theorem ofText_of_spelled_legible {v : Value} (legible : v.Legible depthLimit) {text : String}
    (spelled : Spelled 0 (v.node 0) text.toList) : Value.ofText text = .ok v := by
  rw [Value.ofText, ofText_of_spelled spelled, value_node (found_of_legible legible) (by simp)]
  rfl

/-- The compact text of a legible value and the text with a line for each part are read as the
value, also with a line's end behind them. -/
theorem ofText_legible {v : Value} (legible : v.Legible depthLimit) :
    Value.ofText v.compact = .ok v ∧ Value.ofText (v.pretty ++ "\n") = .ok v := by
  have exact := exact_of_legible legible
  refine ⟨ofText_of_spelled_legible legible (spelled_compact exact 0),
    ofText_of_spelled_legible legible ?_⟩
  have spelled := (spelled_pretty exact 0).blankAfter (show isSpace '\n' = true from rfl)
  simpa [Value.pretty] using spelled

theorem Value.Legible.mono {v : Value} {levels' : Nat} (legible : v.Legible levels)
    (more : levels ≤ levels') : v.Legible levels' := by
  induction legible generalizing levels' with
  | null => exact .null
  | bool b => exact .bool b
  | integer lower upper => exact .integer lower upper
  | string s => exact .string s
  | array parts ih =>
      obtain ⟨fewer, rfl⟩ := Nat.exists_eq_add_one_of_ne_zero (Nat.ne_zero_of_lt more)
      exact .array fun item member => ih item member (Nat.le_of_succ_le_succ more)
  | object order parts ih =>
      obtain ⟨fewer, rfl⟩ := Nat.exists_eq_add_one_of_ne_zero (Nat.ne_zero_of_lt more)
      exact .object order fun member listed => ih member listed (Nat.le_of_succ_le_succ more)

/-! ## Parts of values -/

namespace Value

@[simp]
theorem legible_string (s : String) : (string s).Legible levels := .string s

@[simp]
theorem legible_bool (b : Bool) : (bool b).Legible levels := .bool b

theorem legible_ofInt {n : Int} (fits : -2 ^ 63 ≤ n ∧ n < 2 ^ 63) : (ofInt n).Legible levels :=
  .integer fits.1 (by omega)

@[simp]
theorem legible_array_iff {items : List Value} :
    (array items).Legible (levels + 1) ↔ ∀ item ∈ items, item.Legible levels :=
  ⟨fun | .array parts => parts, .array⟩

@[simp]
theorem legible_object_iff {members : List (String × Value)} :
    (object members).Legible (levels + 1) ↔
      Ascending members ∧ ∀ member ∈ members, member.2.Legible levels :=
  ⟨fun | .object order parts => ⟨order, parts⟩, fun ⟨order, parts⟩ => .object order parts⟩

theorem legible_record {members : List (String × Option Value)} (order : Ascending members)
    (parts : ∀ member ∈ members, ∀ value ∈ member.2, value.Legible levels) :
    (record members).Legible (levels + 1) := by
  refine .object ?_ ?_
  · refine List.Pairwise.filterMap _ ?_ order
    rintro ⟨name, value⟩ ⟨name', value'⟩ less entry found entry' found'
    obtain ⟨_, _, rfl⟩ := Option.map_eq_some_iff.mp found
    obtain ⟨_, _, rfl⟩ := Option.map_eq_some_iff.mp found'
    exact less
  · intro entry shown
    obtain ⟨member, listed, pair⟩ := List.mem_filterMap.mp shown
    obtain ⟨value, found, rfl⟩ := Option.map_eq_some_iff.mp pair
    exact parts member listed value found

@[simp]
theorem legible_ofStrings (ss : List String) : (ofStrings ss).Legible (levels + 1) := by
  simp [ofStrings]

@[simp]
theorem legible_ofDict (d : Dict String) : (ofDict d).Legible (levels + 1) := by
  rw [ofDict, legible_object_iff]
  exact ⟨List.pairwise_map.mpr d.ascending, List.forall_mem_map.mpr fun _ _ => .string _⟩

end Value

end Json

/-! ## Pods -/

@[simp]
theorem KeySelector.legible_json (x : KeySelector) : x.json.Legible (levels + 1) := by
  apply Value.legible_record <;> simp [-String.lt_iff_ltb, -Bool.exists_bool, -Bool.forall_bool]

@[simp]
theorem FieldSelector.legible_json (x : FieldSelector) : x.json.Legible (levels + 1) := by
  apply Value.legible_record <;> simp [-String.lt_iff_ltb]

@[simp]
theorem ResourceSelector.legible_json (x : ResourceSelector) : x.json.Legible (levels + 1) := by
  apply Value.legible_record <;> simp [-String.lt_iff_ltb]

@[simp]
theorem EnvSource.legible_json (x : EnvSource) : x.json.Legible (levels + 2) := by
  apply Value.legible_record <;> simp [-String.lt_iff_ltb]

@[simp]
theorem EnvVar.legible_json (x : EnvVar) : x.json.Legible (levels + 3) := by
  apply Value.legible_record <;> simp [-String.lt_iff_ltb]

@[simp]
theorem Volume.legible_json (v : Volume) : v.json.Legible (levels + 2) := by
  rw [json_eq]
  cases v.source <;> simp [-String.lt_iff_ltb]

@[simp]
theorem VolumeMount.legible_json (x : VolumeMount) : x.json.Legible (levels + 1) := by
  apply Value.legible_record <;> simp [-String.lt_iff_ltb, -Bool.exists_bool, -Bool.forall_bool]

@[simp]
theorem ResourceRequirements.legible_json (x : ResourceRequirements) :
    x.json.Legible (levels + 2) := by
  apply Value.legible_record <;> simp [-String.lt_iff_ltb]

@[simp]
theorem SeccompProfile.legible_json (x : SeccompProfile) : x.json.Legible (levels + 1) := by
  simp [SeccompProfile.json]

@[simp]
theorem Toleration.legible_json (x : Toleration) : x.json.Legible (levels + 1) := by
  apply Value.legible_record <;> simp [-String.lt_iff_ltb]

@[simp]
theorem PodMetadata.legible_json (x : PodMetadata) : x.json.Legible (levels + 2) := by
  apply Value.legible_record <;> simp [-String.lt_iff_ltb]

theorem RunAs.legible_containerContext {r : RunAs} (fits : r.Fits64) :
    r.containerContext.json.Legible (levels + 3) := by
  simp [-String.lt_iff_ltb, SecurityContext.json, containerContext,
    Value.legible_ofInt fits.user, Value.legible_ofInt fits.group]

theorem RunAs.legible_podContext {r : RunAs} (fits : r.Fits64) :
    r.podContext.json.Legible (levels + 2) := by
  simp [-String.lt_iff_ltb, PodSecurityContext.json, podContext, Value.legible_ofInt fits.user,
    Value.legible_ofInt fits.group, Value.legible_ofInt fits.fsGroup]

theorem Container.legible_json {c : Container}
    (context : c.securityContext.json.Legible (levels + 3)) : c.json.Legible (levels + 5) := by
  have context' := context.mono (Nat.le_succ _)
  apply Value.legible_record <;> simp [-String.lt_iff_ltb, context']

theorem PodSpec.legible_json {s : PodSpec}
    (contexts : ∀ c ∈ s.allContainers, c.securityContext.json.Legible (levels + 3))
    (context : s.securityContext.json.Legible (levels + 6)) : s.json.Legible (levels + 7) := by
  have containers : ∀ c ∈ s.allContainers, c.json.Legible (levels + 5) :=
    fun c member => Container.legible_json (contexts c member)
  obtain ⟨init, main⟩ := List.forall_mem_append.mp containers
  have listed : (∀ c ∈ s.containers, c.json.Legible (levels + 5)) ∧
      ∀ c ∈ s.initContainers, c.json.Legible (levels + 5) := ⟨main, init⟩
  apply Value.legible_record
  · simp [-String.lt_iff_ltb]
  · simpa [context] using listed

namespace Settings

variable {settings : Settings} {kind : RunKind} {request : RunRequest}

theorem legible_plannedPod (fits : settings.cluster.runAs.Fits64) :
    (settings.plannedPod kind request).json.Legible (levels + 8) := by
  have contexts : ∀ c ∈ (settings.plannedSpec kind request).allContainers,
      c.securityContext.json.Legible (levels + 3) := by
    apply forall_allContainers
    · exact RunAs.legible_containerContext fits
    · exact RunAs.legible_containerContext fits
    · intro _
      exact RunAs.legible_containerContext fits
    · exact RunAs.legible_containerContext fits
  have spec := PodSpec.legible_json contexts (RunAs.legible_podContext fits)
  apply Value.legible_record <;> simp [-String.lt_iff_ltb, plannedPod, spec]

/-- The pod of a build is found in its manifest and in its compact text as it is. -/
theorem ofText_built {pod : Pod} (fits : settings.cluster.runAs.Fits64)
    (built : settings.buildPod kind request = .ok pod) :
    Value.ofText pod.json.compact = .ok pod.json ∧
      Value.ofText (pod.manifest ++ "\n") = .ok pod.json := by
  obtain ⟨_, rfl⟩ := buildPod_eq_ok_iff.mp built
  have legible : (settings.plannedPod kind request).json.Legible 8 := legible_plannedPod fits
  exact ofText_legible (legible.mono (by decide))

end Settings

end SyncPods
