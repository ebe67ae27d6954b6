import SyncPods.Run.Flags
import SyncPods.Run.Resources
import SyncPods.Settings.Basic

/-!
# Checks of a build

Every step of an assembly that can fail is a check together with a value that does not depend on
the check: `guarded fault value`. This module names the fault and the value of each kind of step,
for images, quantities and flags, and shows that the step is the two together.
-/

namespace SyncPods

/-- The value, unless there is a fault. -/
def guarded {ε α : Type} (fault : Option ε) (value : α) : Except ε α :=
  match fault with
  | some error => .error error
  | none => .ok value

section Guarded

variable {ε α β : Type}

@[simp]
theorem guarded_none (value : α) : guarded (none : Option ε) value = .ok value := rfl

@[simp]
theorem guarded_some (error : ε) (value : α) : guarded (some error) value = .error error := rfl

theorem guarded_eq_error_iff {fault : Option ε} {value : α} {error : ε} :
    guarded fault value = .error error ↔ fault = some error := by
  cases fault with
  | none => simp
  | some other => simp

theorem guarded_eq_ok_iff {fault : Option ε} {value result : α} :
    guarded fault value = .ok result ↔ fault = none ∧ value = result := by
  cases fault with
  | none => simp
  | some error => simp

@[simp]
theorem map_guarded (next : α → β) (fault : Option ε) (value : α) :
    next <$> guarded fault value = guarded fault (next value) := by
  cases fault <;> rfl

@[simp]
theorem guarded_bind_pure (fault : Option ε) (value : α) (next : α → β) :
    (guarded fault value >>= fun x => pure (next x)) = guarded fault (next value) := by
  cases fault <;> rfl

/-- Of two steps in a row the first fault counts, and the second step goes on with the value of
the first. -/
@[simp]
theorem guarded_bind_guarded (first second : Option ε) (value : α) (next : α → β) :
    (guarded first value >>= fun x => guarded second (next x)) =
      guarded (first.or second) (next value) := by
  cases first <;> rfl

@[simp]
theorem mapError_guarded {ε' : Type} (wrap : ε → ε') (fault : Option ε) (value : α) :
    (guarded fault value).mapError wrap = guarded (fault.map wrap) value := by
  cases fault <;> rfl

/-- The fault of the first check that fails, of checks in their order. -/
def firstFault (faults : List (Option ε)) : Option ε := faults.findSome? id

@[simp]
theorem firstFault_nil : firstFault ([] : List (Option ε)) = none := rfl

@[simp]
theorem firstFault_cons (fault : Option ε) (faults : List (Option ε)) :
    firstFault (fault :: faults) = fault.or (firstFault faults) := by
  cases fault <;> rfl

@[simp]
theorem firstFault_append (before after : List (Option ε)) :
    firstFault (before ++ after) = (firstFault before).or (firstFault after) :=
  List.findSome?_append

theorem firstFault_eq_none_iff {faults : List (Option ε)} :
    firstFault faults = none ↔ ∀ fault ∈ faults, fault = none := by
  simp [firstFault, List.findSome?_eq_none_iff]

theorem firstFault_eq_some_iff {faults : List (Option ε)} {error : ε} :
    firstFault faults = some error ↔
      ∃ passed later, faults = passed ++ some error :: later ∧ ∀ fault ∈ passed, fault = none := by
  rw [firstFault, List.findSome?_eq_some_iff]
  constructor
  · rintro ⟨passed, failed, later, split, same, before⟩
    exact ⟨passed, later, same ▸ split, before⟩
  · rintro ⟨passed, later, split, before⟩
    exact ⟨passed, some error, later, split, rfl, before⟩

end Guarded

/-! ## Images -/

/-- The fault of an image that has to be given. -/
def imageFault (role : Role) (image : String) : Option BuildError :=
  if Text.trim image = "" then some (.missingImage role) else none

theorem trim_eq_empty_iff (text : String) :
    Text.trim text = "" ↔ Text.isBlankText text = true := by
  rw [Text.isBlankText, ← Text.trimChars_eq_nil_iff, Text.trim, ← String.toList_inj]
  simp

theorem imageFault_eq_none_iff {role : Role} {image : String} :
    imageFault role image = none ↔ Text.trim image ≠ "" := by
  rw [imageFault]
  by_cases blank : Text.trim image = ""
  · simp [blank]
  · simp [blank]

/-! ## Quantities -/

/-- The quantities that are set, by resource. -/
def setQuantities (entries : List (String × Option String)) : List (String × String) :=
  entries.filterMap fun entry => (normalQuantity entry.2).map (entry.1, ·)

/-- The first of some quantities that is not valid. -/
def firstInvalid (entries : List (String × String)) : Option (String × String) :=
  entries.find? fun entry => !Quantity.isValid entry.2

/-- The fault of a container of the role, with a quantity that is not valid. -/
def quantityError (role : Role) (entry : String × String) : BuildError :=
  .invalidQuantity role entry.1 entry.2

theorem quantities_eq (role : Role) (entries : List (String × Option String)) :
    quantities role entries =
      guarded ((firstInvalid (setQuantities entries)).map (quantityError role))
        (setQuantities entries) := by
  induction entries with
  | nil => rfl
  | cons entry rest ih =>
    obtain ⟨resource, value⟩ := entry
    rw [quantities, setQuantities, List.filterMap_cons, ← setQuantities]
    cases normalQuantity value with
    | none => exact ih
    | some amount =>
      by_cases valid : Quantity.isValid amount
      · simp [valid, ih, firstInvalid]
      · simp [valid, firstInvalid, quantityError]

namespace ResourceSpec

/-- The requests by resource, in the order of their checks. -/
def requests (spec : ResourceSpec) : List (String × Option String) :=
  [("cpu", spec.cpuRequest), ("memory", spec.memoryRequest),
    ("ephemeral-storage", spec.storageRequest)]

/-- The limits by resource, in the order of their checks. -/
def limits (spec : ResourceSpec) : List (String × Option String) :=
  [("cpu", spec.cpuLimit), ("memory", spec.memoryLimit),
    ("ephemeral-storage", spec.storageLimit)]

/-- The first quantity that is not valid: all requests come before all limits. -/
def invalid (spec : ResourceSpec) : Option (String × String) :=
  firstInvalid (setQuantities (spec.requests ++ spec.limits))

/-- What quantities ask for; none if there is no quantity. -/
def needsOf (requests limits : List (String × String)) : Option ResourceRequirements :=
  if requests.isEmpty && limits.isEmpty then none
  else some ⟨dictOrNone limits, dictOrNone requests⟩

/-- What the quantities that are set ask for, whether they are valid or not. -/
def needs (spec : ResourceSpec) : Option ResourceRequirements :=
  needsOf (setQuantities spec.requests) (setQuantities spec.limits)

theorem requirements_eq (spec : ResourceSpec) (role : Role) :
    spec.requirements role = guarded (spec.invalid.map (quantityError role)) spec.needs := by
  have faults : spec.invalid.map (quantityError role) =
      ((firstInvalid (setQuantities spec.requests)).map (quantityError role)).or
        ((firstInvalid (setQuantities spec.limits)).map (quantityError role)) := by
    simp [invalid, setQuantities, firstInvalid, Option.map_or]
  have last (requests limits : List (String × String)) :
      (if requests.isEmpty && limits.isEmpty then pure none
        else pure (some ⟨dictOrNone limits, dictOrNone requests⟩)) =
        (pure (needsOf requests limits) : Except BuildError (Option ResourceRequirements)) := by
    rw [needsOf]
    split <;> rfl
  calc
    spec.requirements role
      = (quantities role spec.requests >>= fun requests =>
          quantities role spec.limits >>= fun limits =>
            if requests.isEmpty && limits.isEmpty then pure none
            else pure (some ⟨dictOrNone limits, dictOrNone requests⟩)) := rfl
    _ = guarded (spec.invalid.map (quantityError role)) spec.needs := by
      rw [quantities_eq, quantities_eq, faults, needs]
      simp only [last, guarded_bind_pure, guarded_bind_guarded]

end ResourceSpec

/-- What a container asks for of which perhaps nothing is specified. -/
def resourceNeeds (spec : Option ResourceSpec) : Option ResourceRequirements :=
  spec.bind ResourceSpec.needs

/-- The fault of a container of the role that is to have what the specification asks for. -/
def quantityFault (role : Role) (spec : Option ResourceSpec) : Option BuildError :=
  (spec.bind ResourceSpec.invalid).map (quantityError role)

theorem resourceRequirements_eq (role : Role) (spec : Option ResourceSpec) :
    resourceRequirements role spec = guarded (quantityFault role spec) (resourceNeeds spec) := by
  cases spec with
  | none => rfl
  | some spec => exact spec.requirements_eq role

/-- Quantities that have passed for one role pass for every other. -/
theorem quantityFault_or_quantityFault (role other : Role) (spec : Option ResourceSpec)
    (later : Option BuildError) :
    (quantityFault role spec).or ((quantityFault other spec).or later) =
      (quantityFault role spec).or later := by
  rw [quantityFault, quantityFault]
  cases spec.bind ResourceSpec.invalid <;> rfl

/-! ## Flags -/

namespace FlagSettings

/-- The fault of a flag that should be a text. -/
def textFault (s : FlagSettings) (flag : TextFlag) (context : FlagContext) : Option FlagError :=
  match s.lookup flag.key context.id with
  | some (.bool _) => some (.typeMismatch flag.key "string")
  | _ => Option.none

/-- The text of a flag, the one it has without any configuration where none is configured. -/
def textValue (s : FlagSettings) (flag : TextFlag) (context : FlagContext) : String :=
  match s.lookup flag.key context.id with
  | some (.text value) => value
  | _ => flag.default

theorem evaluateText_eq (s : FlagSettings) (flag : TextFlag) (context : FlagContext) :
    s.evaluateText flag context =
      guarded (s.textFault flag context) (s.textValue flag context) := by
  rw [evaluateText, textFault, textValue]
  cases s.lookup flag.key context.id with
  | none => rfl
  | some value => cases value <;> rfl

/-- The fault of a flag that should be on or off, or say so in words. -/
def boolFault (s : FlagSettings) (flag : BoolFlag) (context : FlagContext) : Option FlagError :=
  match s.lookup flag.key context.id with
  | some (.text value) =>
    if value = "true" ∨ value = "false" then Option.none
    else some (.typeMismatch flag.key "boolean")
  | _ => Option.none

/-- Whether a flag is on; as it is without any configuration where none is configured. -/
def boolValue (s : FlagSettings) (flag : BoolFlag) (context : FlagContext) : Bool :=
  match s.lookup flag.key context.id with
  | some (.bool value) => value
  | some (.text value) => value == "true"
  | Option.none => flag.default

theorem evaluateBool_eq (s : FlagSettings) (flag : BoolFlag) (context : FlagContext) :
    s.evaluateBool flag context =
      guarded (s.boolFault flag context) (s.boolValue flag context) := by
  rw [evaluateBool, boolFault, boolValue]
  cases s.lookup flag.key context.id with
  | none => rfl
  | some value =>
      cases value with
      | bool b => rfl
      | text word =>
          by_cases isTrue : word = "true"
          · subst isTrue
            rfl
          · by_cases isFalse : word = "false"
            · subst isFalse
              rfl
            · simp [isTrue, isFalse]

end FlagSettings

end SyncPods
