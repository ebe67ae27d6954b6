import SyncPods.Proofs.Checks

/-!
# What a container asks for tells its specification

The requirements of a container hold every quantity that counts, under its side and its resource.
All that is lost of a specification are the blanks around its quantities, and whether it was there
at all if it sets none.
-/

namespace SyncPods

namespace ResourceSpec

def blank : ResourceSpec := ⟨none, none, none, none, none, none⟩

/-- The specification with its quantities as they count. -/
def trimmed (spec : ResourceSpec) : ResourceSpec where
  cpuRequest := normalQuantity spec.cpuRequest
  cpuLimit := normalQuantity spec.cpuLimit
  memoryRequest := normalQuantity spec.memoryRequest
  memoryLimit := normalQuantity spec.memoryLimit
  storageRequest := normalQuantity spec.storageRequest
  storageLimit := normalQuantity spec.storageLimit

end ResourceSpec

/-- A specification as far as it counts; none if it sets no quantity. -/
def normalSpec (spec : Option ResourceSpec) : Option ResourceSpec :=
  (spec.map ResourceSpec.trimmed).filter (· ≠ .blank)

/-- The quantity of a resource on one side of requirements. -/
def quantityOn (side : Option (Dict String)) (resource : String) : Option String :=
  side.bind (·.get? resource)

/-- The quantities of requirements, each in its field. -/
def ResourceRequirements.spec (needs : ResourceRequirements) : ResourceSpec where
  cpuRequest := quantityOn needs.requests "cpu"
  cpuLimit := quantityOn needs.limits "cpu"
  memoryRequest := quantityOn needs.requests "memory"
  memoryLimit := quantityOn needs.limits "memory"
  storageRequest := quantityOn needs.requests "ephemeral-storage"
  storageLimit := quantityOn needs.limits "ephemeral-storage"

/-! ## Looking quantities up -/

theorem quantityOn_dictOrNone (entries : List (String × String)) (resource : String) :
    quantityOn (dictOrNone entries) resource = valueOf? resource entries.reverse := by
  cases entries with
  | nil => rfl
  | cons entry rest => exact Dict.get?_ofList (entry :: rest) resource

@[simp]
theorem setQuantities_nil : setQuantities [] = [] := rfl

theorem valueOf?_setQuantities_cons (resource : String) (entry : String × Option String)
    (rest : List (String × Option String)) :
    valueOf? resource (setQuantities (entry :: rest)) =
      (if resource = entry.1 then normalQuantity entry.2 else none).or
        (valueOf? resource (setQuantities rest)) := by
  rw [setQuantities, List.filterMap_cons, ← setQuantities]
  cases normalQuantity entry.2 with
  | none => simp
  | some amount =>
      rw [Option.map_some, valueOf?_cons]
      split <;> simp

theorem reverse_setQuantities (entries : List (String × Option String)) :
    (setQuantities entries).reverse = setQuantities entries.reverse :=
  List.filterMap_reverse.symm

theorem setQuantities_eq_nil_iff {entries : List (String × Option String)} :
    setQuantities entries = [] ↔ ∀ entry ∈ entries, normalQuantity entry.2 = none := by
  simp [setQuantities]

namespace ResourceSpec

/-- The requirements of a specification hold its quantities. -/
theorem spec_requirements (spec : ResourceSpec) :
    ResourceRequirements.spec ⟨dictOrNone (setQuantities spec.limits),
      dictOrNone (setQuantities spec.requests)⟩ = spec.trimmed := by
  simp only [ResourceRequirements.spec, quantityOn_dictOrNone, reverse_setQuantities]
  simp [requests, limits, trimmed, valueOf?_setQuantities_cons]

theorem isEmpty_setQuantities_iff (spec : ResourceSpec) :
    ((setQuantities spec.requests).isEmpty && (setQuantities spec.limits).isEmpty) = true ↔
      spec.trimmed = blank := by
  simp only [Bool.and_eq_true, List.isEmpty_iff, setQuantities_eq_nil_iff]
  simp only [requests, limits, trimmed, blank, List.mem_cons, List.not_mem_nil, or_false,
    forall_eq_or_imp, forall_eq, mk.injEq]
  constructor
  · rintro ⟨⟨cpu, memory, storage⟩, cpu', memory', storage'⟩
    exact ⟨cpu, cpu', memory, memory', storage, storage'⟩
  · rintro ⟨cpu, cpu', memory, memory', storage, storage'⟩
    exact ⟨⟨cpu, memory, storage⟩, cpu', memory', storage'⟩

theorem map_spec_needs (spec : ResourceSpec) :
    spec.needs.map ResourceRequirements.spec = normalSpec (some spec) := by
  rw [needs, needsOf, normalSpec, Option.map_some]
  by_cases nothing : spec.trimmed = blank
  · rw [if_pos (spec.isEmpty_setQuantities_iff.mpr nothing)]
    simp [Option.filter_some, nothing]
  · rw [if_neg (mt spec.isEmpty_setQuantities_iff.mp nothing), Option.map_some, spec_requirements]
    simp [Option.filter_some, nothing]

end ResourceSpec

/-- What a container asks for gives its specification back, as far as it counts. -/
theorem map_spec_resourceNeeds (spec : Option ResourceSpec) :
    (resourceNeeds spec).map ResourceRequirements.spec = normalSpec spec := by
  cases spec with
  | none => rfl
  | some spec => exact spec.map_spec_needs

theorem normalSpec_eq_of_resourceNeeds_eq {spec spec' : Option ResourceSpec}
    (same : resourceNeeds spec = resourceNeeds spec') : normalSpec spec = normalSpec spec' := by
  rw [← map_spec_resourceNeeds, same, map_spec_resourceNeeds]

end SyncPods
