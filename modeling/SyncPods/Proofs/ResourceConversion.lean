import Mathlib.Data.List.DropRight
import SyncPods.Proofs.ResourceRecovery

/-!
# What becomes of a specification of resources

A specification is turned into requirements or refused, and only its quantities without the blanks
around them count. It is refused for the first of them that is no quantity; otherwise the
requirements hold each of them under its side and its resource, and nothing else. So blanks around a
quantity do not matter, a blank quantity is as good as none, and what requirements hold can be
turned into requirements again and stays what it is.
-/

namespace SyncPods

/-! ## Blanks around a text -/

namespace Text

variable {before after cs : List Char}

theorem trimChars_padded (left : ∀ c ∈ before, isBlank c = true)
    (right : ∀ c ∈ after, isBlank c = true) : trimChars (before ++ cs ++ after) = trimChars cs := by
  have dropped : (before ++ cs ++ after).dropWhile isBlank =
      if (cs.dropWhile isBlank).isEmpty then [] else cs.dropWhile isBlank ++ after := by
    have gone : after.dropWhile isBlank = [] := by simpa using right
    rw [List.append_assoc, List.dropWhile_append_of_pos left, List.dropWhile_append, gone]
  rw [trimChars, trimChars, dropped]
  split
  next empty => rw [List.isEmpty_iff.mp empty]
  next =>
    have reversed : ∀ c ∈ after.reverse, isBlank c = true := by simpa using right
    rw [List.reverse_append, List.dropWhile_append_of_pos reversed]

/-- A text is what is left of it without the blanks at its ends, and these blanks. -/
theorem exists_padding (cs : List Char) :
    ∃ before after, (∀ c ∈ before, isBlank c = true) ∧ (∀ c ∈ after, isBlank c = true) ∧
      cs = before ++ trimChars cs ++ after := by
  refine ⟨cs.takeWhile isBlank, (cs.dropWhile isBlank).rtakeWhile isBlank, ?_, ?_, ?_⟩
  · exact fun c listed => List.mem_takeWhile_imp listed
  · exact fun c listed => List.mem_rtakeWhile_imp listed
  · calc
      cs = cs.takeWhile isBlank ++ cs.dropWhile isBlank := List.takeWhile_append_dropWhile.symm
      _ = cs.takeWhile isBlank ++ (trimChars cs ++ (cs.dropWhile isBlank).rtakeWhile isBlank) :=
        congrArg _ List.rdropWhile_append_rtakeWhile.symm
      _ = _ := (List.append_assoc ..).symm

theorem trimChars_again (cs : List Char) : trimChars (trimChars cs) = trimChars cs := by
  obtain ⟨before, after, left, right, split⟩ := exists_padding cs
  conv_rhs => rw [split, trimChars_padded left right]

theorem trim_padded {before after : String} (left : isBlankText before = true)
    (right : isBlankText after = true) (text : String) :
    trim (before ++ text ++ after) = trim text := by
  rw [isBlankText, List.all_eq_true] at left right
  rw [trim, trim, String.toList_append, String.toList_append, trimChars_padded left right]

theorem trim_again (text : String) : trim (trim text) = trim text := by
  rw [trim, trim, String.toList_ofList, trimChars_again]

end Text

/-! ## Quantities as they count -/

theorem normalQuantity_some (text : String) :
    normalQuantity (some text) = if Text.trim text = "" then none else some (Text.trim text) := by
  rw [normalQuantity, Option.map_some, Option.filter_some]
  simp

theorem normalQuantity_again (value : Option String) :
    normalQuantity (normalQuantity value) = normalQuantity value := by
  cases value with
  | none => rfl
  | some text =>
      rw [normalQuantity_some]
      split
      · rfl
      next counts => rw [normalQuantity_some, Text.trim_again, if_neg counts]

/-- The second value is the first with blanks around it, or nothing in the place of a blank one. -/
inductive Respaced : Option String → Option String → Prop where
  | same (value : Option String) : Respaced value value
  | padded {before after : String} (text : String) :
      Text.isBlankText before = true → Text.isBlankText after = true →
        Respaced (some text) (some (before ++ text ++ after))
  | dropped {text : String} : Text.isBlankText text = true → Respaced (some text) none

theorem Respaced.normalQuantity_eq {value value' : Option String} (same : Respaced value value') :
    normalQuantity value' = normalQuantity value := by
  cases same with
  | same => rfl
  | padded text left right =>
      rw [normalQuantity_some, normalQuantity_some, Text.trim_padded left right]
  | dropped blank => rw [normalQuantity_some, if_pos ((trim_eq_empty_iff _).mpr blank)]; rfl

namespace ResourceSpec

/-- Each value of the second specification is that of the first, up to blanks. -/
structure Respaced (spec spec' : ResourceSpec) : Prop where
  cpuRequest : SyncPods.Respaced spec.cpuRequest spec'.cpuRequest
  cpuLimit : SyncPods.Respaced spec.cpuLimit spec'.cpuLimit
  memoryRequest : SyncPods.Respaced spec.memoryRequest spec'.memoryRequest
  memoryLimit : SyncPods.Respaced spec.memoryLimit spec'.memoryLimit
  storageRequest : SyncPods.Respaced spec.storageRequest spec'.storageRequest
  storageLimit : SyncPods.Respaced spec.storageLimit spec'.storageLimit

theorem Respaced.trimmed_eq {spec spec' : ResourceSpec} (same : spec.Respaced spec') :
    spec'.trimmed = spec.trimmed := by
  simp only [trimmed, same.cpuRequest.normalQuantity_eq, same.cpuLimit.normalQuantity_eq,
    same.memoryRequest.normalQuantity_eq, same.memoryLimit.normalQuantity_eq,
    same.storageRequest.normalQuantity_eq, same.storageLimit.normalQuantity_eq]

theorem setQuantities_trimmed (spec : ResourceSpec) :
    setQuantities spec.trimmed.requests = setQuantities spec.requests ∧
      setQuantities spec.trimmed.limits = setQuantities spec.limits := by
  have counted (entries : List (String × Option String)) :
      setQuantities (entries.map fun entry => (entry.1, normalQuantity entry.2)) =
        setQuantities entries := by
    simp [setQuantities, List.filterMap_map, normalQuantity_again]
  exact ⟨counted spec.requests, counted spec.limits⟩

/-- Of a specification only the quantities as they count matter. -/
theorem requirements_trimmed (spec : ResourceSpec) (role : Role) :
    spec.trimmed.requirements role = spec.requirements role := by
  obtain ⟨requests, limits⟩ := spec.setQuantities_trimmed
  have fault : spec.trimmed.invalid = spec.invalid := by
    simp only [invalid, setQuantities, List.filterMap_append] at requests limits ⊢
    rw [requests, limits]
  rw [requirements_eq, requirements_eq, fault, needs, needs, requests, limits]

end ResourceSpec

theorem resourceRequirements_normalSpec (role : Role) (spec : Option ResourceSpec) :
    resourceRequirements role (normalSpec spec) = resourceRequirements role spec := by
  cases spec with
  | none => rfl
  | some spec =>
      have same : resourceRequirements role (some spec) = spec.trimmed.requirements role :=
        (spec.requirements_trimmed role).symm
      rw [normalSpec, Option.map_some, Option.filter_some, same]
      split
      · rfl
      next unset =>
        have blank : spec.trimmed = .blank := by simpa using unset
        rw [blank]
        rfl

/-! ## What requirements hold -/

/-- What a specification says of the requests, in the order of the checks. -/
def requestFields (spec : Option ResourceSpec) : List (String × Option String) :=
  spec.elim [] ResourceSpec.requests

/-- What a specification says of the limits, in the order of the checks. -/
def limitFields (spec : Option ResourceSpec) : List (String × Option String) :=
  spec.elim [] ResourceSpec.limits

/-- The field sets no quantity, or a valid one. -/
def Passes (field : String × Option String) : Prop :=
  ∀ amount, normalQuantity field.2 = some amount → Quantity.isValid amount = true

/-- A side of requirements holds the quantity of each field under its resource and nothing else. It
is absent where it would be empty. -/
structure HoldsExactly (side : Option (Dict String)) (fields : List (String × Option String)) :
    Prop where
  amounts : ∀ resource,
    quantityOn side resource = (valueOf? resource fields).bind normalQuantity
  notEmpty : side ≠ some ∅

/-- Requirements hold exactly what a specification sets. They are absent where both sides are. -/
structure Meets (needs : Option ResourceRequirements) (spec : Option ResourceSpec) : Prop where
  requests : HoldsExactly (needs.bind (·.requests)) (requestFields spec)
  limits : HoldsExactly (needs.bind (·.limits)) (limitFields spec)
  notEmpty : needs ≠ some ⟨none, none⟩

theorem dictOrNone_ne_empty (entries : List (String × String)) : dictOrNone entries ≠ some ∅ := by
  intro empty
  have nothing (resource : String) : valueOf? resource entries.reverse = none := by
    rw [← quantityOn_dictOrNone, empty]
    rfl
  cases split : entries.reverse with
  | nil =>
      rw [List.reverse_eq_nil_iff.mp split] at empty
      cases empty
  | cons last rest =>
      have found := nothing last.1
      rw [split, valueOf?_cons, if_pos rfl] at found
      cases found

/-- The fields of one side, by the resources that there are. -/
theorem holdsExactly_dictOrNone (cpu memory storage : Option String) :
    HoldsExactly (dictOrNone (setQuantities
      [("cpu", cpu), ("memory", memory), ("ephemeral-storage", storage)]))
      [("cpu", cpu), ("memory", memory), ("ephemeral-storage", storage)] := by
  refine ⟨fun resource => ?_, dictOrNone_ne_empty _⟩
  have reversed : [("cpu", cpu), ("memory", memory), ("ephemeral-storage", storage)].reverse =
      [("ephemeral-storage", storage), ("memory", memory), ("cpu", cpu)] := rfl
  rw [quantityOn_dictOrNone, reverse_setQuantities, reversed]
  simp only [valueOf?_setQuantities_cons, setQuantities_nil, valueOf?_cons, valueOf?_nil]
  by_cases isCpu : resource = "cpu"
  · simp [isCpu]
  · by_cases isMemory : resource = "memory"
    · simp [isMemory]
    · by_cases isStorage : resource = "ephemeral-storage"
      · simp [isStorage]
      · simp [isCpu, isMemory, isStorage]

theorem sides_needsOf (requests limits : List (String × String)) :
    (ResourceSpec.needsOf requests limits).bind (·.requests) = dictOrNone requests ∧
      (ResourceSpec.needsOf requests limits).bind (·.limits) = dictOrNone limits ∧
      ResourceSpec.needsOf requests limits ≠ some ⟨none, none⟩ := by
  rw [ResourceSpec.needsOf]
  split
  next nothing =>
    rw [Bool.and_eq_true, List.isEmpty_iff, List.isEmpty_iff] at nothing
    rw [nothing.1, nothing.2]
    exact ⟨rfl, rfl, by simp⟩
  next something =>
    refine ⟨rfl, rfl, fun empty => something ?_⟩
    simpa [dictOrNone, and_comm] using empty

theorem meets_resourceNeeds (spec : Option ResourceSpec) : Meets (resourceNeeds spec) spec := by
  cases spec with
  | none =>
      have nothing : HoldsExactly none [] := ⟨fun _ => rfl, by simp⟩
      exact ⟨nothing, nothing, by simp [resourceNeeds]⟩
  | some spec =>
      obtain ⟨requests, limits, notEmpty⟩ :=
        sides_needsOf (setQuantities spec.requests) (setQuantities spec.limits)
      refine ⟨?_, ?_, notEmpty⟩
      · exact requests ▸ holdsExactly_dictOrNone spec.cpuRequest spec.memoryRequest
          spec.storageRequest
      · exact limits ▸ holdsExactly_dictOrNone spec.cpuLimit spec.memoryLimit spec.storageLimit

/-! ## The first fault -/

theorem passes_iff {field : String × Option String} :
    Passes field ↔
      (normalQuantity field.2).any (fun amount => !Quantity.isValid amount) = false := by
  rw [Passes]
  cases normalQuantity field.2 with
  | none => simp
  | some amount => simp

theorem firstInvalid_setQuantities (fields : List (String × Option String)) :
    firstInvalid (setQuantities fields) =
      (fields.find? fun field =>
        (normalQuantity field.2).any fun amount => !Quantity.isValid amount).bind
          fun field => (normalQuantity field.2).map (field.1, ·) := by
  simp [firstInvalid, setQuantities, List.find?_filterMap, Option.any_map]

theorem firstInvalid_setQuantities_eq_none_iff {fields : List (String × Option String)} :
    firstInvalid (setQuantities fields) = none ↔ ∀ field ∈ fields, Passes field := by
  rw [firstInvalid, List.find?_eq_none]
  constructor
  · intro valid field listed amount counts
    have set : (field.1, amount) ∈ setQuantities fields :=
      List.mem_filterMap.mpr ⟨field, listed, by simp [counts]⟩
    simpa using valid _ set
  · intro passed entry set
    obtain ⟨field, listed, found⟩ := List.mem_filterMap.mp set
    obtain ⟨amount, counts, rfl⟩ := Option.map_eq_some_iff.mp found
    simpa using passed field listed amount counts

theorem firstInvalid_setQuantities_eq_some_iff {fields : List (String × Option String)}
    {resource amount : String} :
    firstInvalid (setQuantities fields) = some (resource, amount) ↔
      ∃ earlier value later, fields = earlier ++ (resource, value) :: later ∧
        normalQuantity value = some amount ∧ Quantity.isValid amount = false ∧
          ∀ field ∈ earlier, Passes field := by
  simp only [firstInvalid_setQuantities, Option.bind_eq_some_iff, List.find?_eq_some_iff_append,
    passes_iff, Bool.not_eq_true']
  constructor
  · rintro ⟨⟨resource, value⟩, ⟨fault, earlier, later, split, passed⟩, found⟩
    obtain ⟨amount, counts, same⟩ := Option.map_eq_some_iff.mp found
    obtain ⟨rfl, rfl⟩ := Prod.mk.inj same
    refine ⟨earlier, value, later, split, counts, ?_, passed⟩
    simpa [counts] using fault
  · rintro ⟨earlier, value, later, split, counts, fault, passed⟩
    refine ⟨(resource, value), ⟨?_, earlier, later, split, passed⟩, ?_⟩
    · simp [counts, fault]
    · simp [counts]

theorem quantityFault_eq (role : Role) (spec : Option ResourceSpec) :
    quantityFault role spec =
      (firstInvalid (setQuantities (requestFields spec ++ limitFields spec))).map
        (quantityError role) := by
  cases spec <;> rfl

/-- A specification is turned into requirements just when each of its quantities is valid. If not,
the first that is not is the error. The requirements hold its quantities and nothing else, and
turned into requirements again they stay the same. Blanks around a quantity do not matter, and a
blank one is as good as none. -/
theorem resourceRequirements_convert (role : Role) (spec : Option ResourceSpec) :
    ((∃ needs, resourceRequirements role spec = .ok needs) ↔
        ∀ field ∈ requestFields spec ++ limitFields spec, Passes field) ∧
      (∀ error, resourceRequirements role spec = .error error ↔
        ∃ earlier resource value later amount,
          requestFields spec ++ limitFields spec = earlier ++ (resource, value) :: later ∧
            (∀ field ∈ earlier, Passes field) ∧ normalQuantity value = some amount ∧
            Quantity.isValid amount = false ∧ error = .invalidQuantity role resource amount) ∧
      (∀ needs, resourceRequirements role spec = .ok needs →
        Meets needs spec ∧
          resourceRequirements role (needs.map ResourceRequirements.spec) = .ok needs) ∧
      ∀ spec', Option.Rel ResourceSpec.Respaced spec spec' →
        resourceRequirements role spec' = resourceRequirements role spec := by
  refine ⟨?_, fun error => ?_, fun needs converted => ?_, fun spec' same => ?_⟩
  · rw [← firstInvalid_setQuantities_eq_none_iff]
    simp only [resourceRequirements_eq, guarded_eq_ok_iff, quantityFault_eq,
      Option.map_eq_none_iff, exists_and_left, exists_eq', and_true]
  · rw [resourceRequirements_eq, guarded_eq_error_iff, quantityFault_eq, Option.map_eq_some_iff]
    constructor
    · rintro ⟨⟨resource, amount⟩, first, rfl⟩
      obtain ⟨earlier, value, later, split, counts, fault, passed⟩ :=
        firstInvalid_setQuantities_eq_some_iff.mp first
      exact ⟨earlier, resource, value, later, amount, split, passed, counts, fault, rfl⟩
    · rintro ⟨earlier, resource, value, later, amount, split, passed, counts, fault, rfl⟩
      exact ⟨(resource, amount), firstInvalid_setQuantities_eq_some_iff.mpr
        ⟨earlier, value, later, split, counts, fault, passed⟩, rfl⟩
  · have needed : resourceNeeds spec = needs := by
      rw [resourceRequirements_eq, guarded_eq_ok_iff] at converted
      exact converted.2
    rw [← needed, map_spec_resourceNeeds, resourceRequirements_normalSpec, converted, needed]
    exact ⟨needed ▸ meets_resourceNeeds spec, rfl⟩
  · cases same with
    | none => rfl
    | some respaced =>
        rw [← resourceRequirements_normalSpec role (some _), normalSpec, Option.map_some,
          respaced.trimmed_eq, ← Option.map_some, ← normalSpec, resourceRequirements_normalSpec]

end SyncPods
