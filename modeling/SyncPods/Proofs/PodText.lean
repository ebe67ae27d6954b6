import SyncPods.Manifest.Pod
import SyncPods.Proofs.WrittenValue

/-!
# Different pods have different manifests

Every part of a pod has a member of its own in the manifest, which is there or not as the part is.
So no part is lost on the way to the manifest, and the manifest tells a pod from all others.
-/

namespace SyncPods

open Json

/-! ## Records -/

namespace Json.Value

/-- The members of a record that are there. -/
private def present (members : List (String × Option Value)) : List (String × Value) :=
  members.filterMap fun (name, value) => value.map (name, ·)

private theorem name_mem_of_mem_present {members : List (String × Option Value)} {name : String}
    {value : Value} (member : (name, value) ∈ present members) : name ∈ members.map (·.1) := by
  obtain ⟨⟨other, found⟩, listed, shown⟩ := List.mem_filterMap.mp member
  obtain ⟨_, _, pair⟩ := Option.map_eq_some_iff.mp shown
  obtain ⟨rfl, _⟩ := Prod.mk.inj pair
  exact List.mem_map_of_mem listed

private theorem present_inj {members members' : List (String × Option Value)}
    (names : members.map (·.1) = members'.map (·.1)) (distinct : (members.map (·.1)).Nodup)
    (same : present members = present members') : members = members' := by
  induction members generalizing members' with
  | nil => exact (List.map_eq_nil_iff.mp names.symm).symm
  | cons first rest ih =>
      cases members' with
      | nil => cases names
      | cons first' rest' =>
          obtain ⟨name, value⟩ := first
          obtain ⟨name', value'⟩ := first'
          obtain ⟨rfl, otherNames⟩ := List.cons.inj names
          obtain ⟨fresh, otherDistinct⟩ := List.nodup_cons.mp distinct
          -- A member that only one record has would come later in the other, under its name.
          cases value with
          | none =>
              cases value' with
              | none => rw [ih otherNames otherDistinct same]
              | some v' =>
                  have later : (name, v') ∈ present rest := same ▸ List.mem_cons_self
                  exact absurd (name_mem_of_mem_present later) fresh
          | some v =>
              cases value' with
              | none =>
                  have later : (name, v) ∈ present rest' := same ▸ List.mem_cons_self
                  exact absurd (otherNames ▸ name_mem_of_mem_present later) fresh
              | some v' =>
                  obtain ⟨pair, same⟩ := List.cons.inj same
                  rw [ih otherNames otherDistinct same, (Prod.mk.inj pair).2]

/-- Records with the same names in the same order are equal only if all members are. -/
theorem record_inj {members members' : List (String × Option Value)}
    (same : record members = record members') (names : members.map (·.1) = members'.map (·.1))
    (distinct : (members.map (·.1)).Nodup) : members = members' :=
  present_inj names distinct (object.inj same)

/-! ## Exact values -/

@[simp]
theorem exact_string (s : String) : (string s).Exact := .string s

@[simp]
theorem exact_bool (b : Bool) : (bool b).Exact := .bool b

@[simp]
theorem exact_ofInt (n : Int) : (ofInt n).Exact := .integer n

@[simp]
theorem exact_array_iff {items : List Value} :
    (array items).Exact ↔ ∀ item ∈ items, item.Exact :=
  ⟨fun | .array exacts => exacts, .array⟩

@[simp]
theorem exact_object_iff {members : List (String × Value)} :
    (object members).Exact ↔ ∀ member ∈ members, member.2.Exact :=
  ⟨fun | .object exacts => exacts, .object⟩

@[simp]
theorem exact_record_iff {members : List (String × Option Value)} :
    (record members).Exact ↔ ∀ member ∈ members, ∀ value ∈ member.2, value.Exact := by
  rw [record, exact_object_iff]
  constructor
  · intro exacts member listed value found
    exact exacts (member.1, value) (List.mem_filterMap.mpr ⟨member, listed, by simp_all⟩)
  · intro exacts member shown
    obtain ⟨entry, listed, pair⟩ := List.mem_filterMap.mp shown
    obtain ⟨value, found, rfl⟩ := Option.map_eq_some_iff.mp pair
    exact exacts entry listed value found

@[simp]
theorem exact_ofStrings (ss : List String) : (ofStrings ss).Exact := by
  simp [ofStrings]

@[simp]
theorem exact_ofDict (d : Dict String) : (ofDict d).Exact := by
  rw [ofDict, exact_object_iff, List.forall_mem_map]
  simp

theorem ofStrings_injective : Function.Injective ofStrings := by
  intro ss ss' same
  simpa [ofStrings, List.map_inj_right] using same

theorem ofDict_injective : Function.Injective ofDict := by
  intro d d' same
  refine Dict.ext (List.map_injective_iff.mpr ?_ (object.inj same))
  rintro ⟨name, s⟩ ⟨name', s'⟩ pair
  simpa using pair

end Json.Value


/-! ## Variables -/

@[simp]
theorem KeySelector.exact_json (x : KeySelector) : x.json.Exact := by
  simp [KeySelector.json, -Bool.exists_bool, -Bool.forall_bool]

theorem KeySelector.json_injective : Function.Injective KeySelector.json := by
  intro x y same
  have fields := Value.record_inj same rfl (by simp)
  cases x
  cases y
  simpa [Option.map_inj_right] using fields

@[simp]
theorem FieldSelector.exact_json (x : FieldSelector) : x.json.Exact := by
  simp [FieldSelector.json]

theorem FieldSelector.json_injective : Function.Injective FieldSelector.json := by
  intro x y same
  have fields := Value.record_inj same rfl (by simp)
  cases x
  cases y
  simpa [Option.map_inj_right] using fields

@[simp]
theorem ResourceSelector.exact_json (x : ResourceSelector) : x.json.Exact := by
  simp [ResourceSelector.json]

theorem ResourceSelector.json_injective : Function.Injective ResourceSelector.json := by
  intro x y same
  have fields := Value.record_inj same rfl (by simp)
  cases x
  cases y
  simpa [Option.map_inj_right] using fields

@[simp]
theorem EnvSource.exact_json (x : EnvSource) : x.json.Exact := by
  simp [EnvSource.json]

theorem EnvSource.json_injective : Function.Injective EnvSource.json := by
  intro x y same
  have fields := Value.record_inj same rfl (by simp)
  cases x
  cases y
  simpa [Option.map_inj_right, KeySelector.json_injective.eq_iff,
    FieldSelector.json_injective.eq_iff, ResourceSelector.json_injective.eq_iff] using fields

@[simp]
theorem EnvVar.exact_json (x : EnvVar) : x.json.Exact := by
  simp [EnvVar.json]

theorem EnvVar.json_injective : Function.Injective EnvVar.json := by
  intro x y same
  have fields := Value.record_inj same rfl (by simp)
  cases x
  cases y
  simpa [Option.map_inj_right, EnvSource.json_injective.eq_iff] using fields

/-! ## Volumes -/

theorem Volume.json_eq (v : Volume) :
    v.json = .object (match v.source with
      | .emptyDir => [("emptyDir", .object []), ("name", .string v.name)]
      | .secret name => [("name", .string v.name),
          ("secret", .object [("secretName", .string name)])]) := by
  obtain ⟨name, source⟩ := v
  cases source with
  | emptyDir => rfl
  | secret secretName => rfl

@[simp]
theorem Volume.exact_json (v : Volume) : v.json.Exact := by
  rw [json_eq]
  cases v.source <;> simp

theorem Volume.json_injective : Function.Injective Volume.json := by
  rintro ⟨name, source⟩ ⟨name', source'⟩ same
  rw [json_eq, json_eq] at same
  cases source with
  | emptyDir =>
      cases source' with
      | emptyDir => simpa using same
      | secret secretName' => simp at same
  | secret secretName =>
      cases source' with
      | emptyDir => simp at same
      | secret secretName' => simpa using same

@[simp]
theorem VolumeMount.exact_json (x : VolumeMount) : x.json.Exact := by
  simp [VolumeMount.json, -Bool.exists_bool, -Bool.forall_bool]

theorem VolumeMount.json_injective : Function.Injective VolumeMount.json := by
  intro x y same
  have fields := Value.record_inj same rfl (by simp)
  cases x
  cases y
  simpa [Option.map_inj_right] using fields

/-! ## Containers -/

@[simp]
theorem ResourceRequirements.exact_json (x : ResourceRequirements) : x.json.Exact := by
  simp [ResourceRequirements.json]

theorem ResourceRequirements.json_injective : Function.Injective ResourceRequirements.json := by
  intro x y same
  have fields := Value.record_inj same rfl (by simp)
  cases x
  cases y
  simpa [Option.map_inj_right, Value.ofDict_injective.eq_iff] using fields

@[simp]
theorem SeccompProfile.exact_json (x : SeccompProfile) : x.json.Exact := by
  simp [SeccompProfile.json]

theorem SeccompProfile.json_injective : Function.Injective SeccompProfile.json := by
  intro x y same
  cases x
  cases y
  simpa [SeccompProfile.json] using same

@[simp]
theorem SecurityContext.exact_json (x : SecurityContext) : x.json.Exact := by
  simp [SecurityContext.json]

theorem SecurityContext.json_injective : Function.Injective SecurityContext.json := by
  intro x y same
  cases x
  cases y
  simpa [SecurityContext.json, Value.ofInt, Value.ofStrings_injective.eq_iff,
    SeccompProfile.json_injective.eq_iff] using same

@[simp]
theorem PodSecurityContext.exact_json (x : PodSecurityContext) : x.json.Exact := by
  simp [PodSecurityContext.json]

theorem PodSecurityContext.json_injective : Function.Injective PodSecurityContext.json := by
  intro x y same
  cases x
  cases y
  simpa [PodSecurityContext.json, Value.ofInt, SeccompProfile.json_injective.eq_iff] using same

@[simp]
theorem Container.exact_json (x : Container) : x.json.Exact := by
  simp [Container.json]

theorem Container.json_injective : Function.Injective Container.json := by
  intro x y same
  have fields := Value.record_inj same rfl (by simp)
  cases x
  cases y
  simpa [Option.map_inj_right, List.map_inj_right, Value.ofStrings_injective.eq_iff,
    EnvVar.json_injective.eq_iff, ResourceRequirements.json_injective.eq_iff,
    SecurityContext.json_injective.eq_iff, VolumeMount.json_injective.eq_iff] using fields

/-! ## Pods -/

@[simp]
theorem Toleration.exact_json (x : Toleration) : x.json.Exact := by
  simp [Toleration.json]

theorem Toleration.json_injective : Function.Injective Toleration.json := by
  rintro ⟨key, operator, value, effect⟩ ⟨key', operator', value', effect'⟩ same
  have fields := Value.record_inj same rfl (by simp)
  have ⟨sameEffect, sameKey, sameOperator, sameValue⟩ :
      effect = effect' ∧ key = key' ∧ operator = operator' ∧ value = value' := by
    simpa [Option.map_inj_right] using fields
  rw [sameKey, sameOperator, sameValue, sameEffect]

@[simp]
theorem PodMetadata.exact_json (x : PodMetadata) : x.json.Exact := by
  simp [PodMetadata.json]

theorem PodMetadata.json_injective : Function.Injective PodMetadata.json := by
  rintro ⟨name, labels, annotations⟩ ⟨name', labels', annotations'⟩ same
  have fields := Value.record_inj same rfl (by simp)
  have ⟨sameAnnotations, sameLabels, sameName⟩ :
      annotations = annotations' ∧ labels = labels' ∧ name = name' := by
    simpa [Option.map_inj_right, Value.ofDict_injective.eq_iff] using fields
  rw [sameName, sameLabels, sameAnnotations]

@[simp]
theorem PodSpec.exact_json (x : PodSpec) : x.json.Exact := by
  simp [PodSpec.json]

theorem PodSpec.json_injective : Function.Injective PodSpec.json := by
  intro x y same
  have fields := Value.record_inj same rfl (by simp)
  cases x
  cases y
  simpa [Option.map_inj_right, List.map_inj_right, Container.json_injective.eq_iff,
    Value.ofDict_injective.eq_iff, PodSecurityContext.json_injective.eq_iff,
    Toleration.json_injective.eq_iff, Volume.json_injective.eq_iff] using fields

@[simp]
theorem Pod.exact_json (x : Pod) : x.json.Exact := by
  simp [Pod.json]

theorem Pod.json_injective : Function.Injective Pod.json := by
  intro x y same
  have fields := Value.record_inj same rfl (by simp)
  cases x
  cases y
  simpa [Option.map_inj_right, PodMetadata.json_injective.eq_iff,
    PodSpec.json_injective.eq_iff] using fields

/-- The manifest tells a pod from all others. -/
theorem Pod.manifest_injective : Function.Injective Pod.manifest := by
  intro pod pod' same
  exact Pod.json_injective (Value.pretty_inj pod.exact_json pod'.exact_json same)

end SyncPods
