import SyncPods.Manifest.Container
import SyncPods.Quantity
import SyncPods.Run.Error
import SyncPods.Text.Blank

/-!
# Resource requirements

The wanted quantities of a container, checked and without the blanks around them. A blank quantity
counts as none.
-/

namespace SyncPods

/-- A quantity without blanks around it; none if nothing else is there. -/
def normalQuantity (value : Option String) : Option String :=
  (value.map Text.trim).filter (· ≠ "")

/-- The quantities that are set, by resource. The first invalid one is an error. -/
def quantities (role : Role) :
    List (String × Option String) → Except BuildError (List (String × String))
  | [] => .ok []
  | (resource, value) :: rest =>
    match normalQuantity value with
    | none => quantities role rest
    | some value =>
      if Quantity.isValid value then do
        return (resource, value) :: (← quantities role rest)
      else .error (.invalidQuantity role resource value)

/-- A dictionary of the entries, none if there is no entry. -/
def dictOrNone (entries : List (String × String)) : Option (Dict String) :=
  if entries.isEmpty then none else some (Dict.ofList entries)

namespace ResourceSpec

/-- The requirements of a container of the role; none if no quantity is set. -/
def requirements (spec : ResourceSpec) (role : Role) :
    Except BuildError (Option ResourceRequirements) := do
  let requests ← quantities role [("cpu", spec.cpuRequest), ("memory", spec.memoryRequest),
    ("ephemeral-storage", spec.storageRequest)]
  let limits ← quantities role [("cpu", spec.cpuLimit), ("memory", spec.memoryLimit),
    ("ephemeral-storage", spec.storageLimit)]
  if requests.isEmpty && limits.isEmpty then return none
  else return some ⟨dictOrNone limits, dictOrNone requests⟩

end ResourceSpec

/-- The requirements of a container for which perhaps nothing is specified. -/
def resourceRequirements (role : Role) (spec : Option ResourceSpec) :
    Except BuildError (Option ResourceRequirements) :=
  match spec with
  | some spec => spec.requirements role
  | none => .ok none

end SyncPods
