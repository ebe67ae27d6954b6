/-!
# Dictionaries

Values by name, in the order of the names, each name once. Names are compared by code points, which
is also the order of their UTF-8 bytes.
-/

namespace SyncPods

/-- Puts an entry at its place in the order of names; an earlier entry of that name goes. -/
def insertEntry {α : Type} (name : String) (value : α) :
    List (String × α) → List (String × α)
  | [] => [(name, value)]
  | (other, kept) :: rest =>
    if name < other then (name, value) :: (other, kept) :: rest
    else if name = other then (name, value) :: rest
    else (other, kept) :: insertEntry name value rest

def valueOf? {α : Type} (name : String) (entries : List (String × α)) : Option α :=
  (entries.find? (·.1 == name)).map (·.2)

abbrev Ascending {α : Type} (entries : List (String × α)) : Prop :=
  entries.Pairwise fun a b => a.1 < b.1

theorem mem_insertEntry {α : Type} {name : String} {value : α} {entry : String × α}
    {entries : List (String × α)} (member : entry ∈ insertEntry name value entries) :
    entry = (name, value) ∨ entry ∈ entries := by
  induction entries with
  | nil => simpa [insertEntry] using member
  | cons first rest ih => grind [insertEntry]

theorem ascending_insertEntry {α : Type} (name : String) (value : α)
    {entries : List (String × α)} (order : Ascending entries) :
    Ascending (insertEntry name value entries) := by
  induction entries with
  | nil => simp [insertEntry, Ascending]
  | cons first rest ih =>
    obtain ⟨head, tail⟩ := List.pairwise_cons.1 order
    rw [insertEntry]
    split
    next less =>
      refine List.pairwise_cons.2 ⟨fun entry member => ?_, order⟩
      rcases List.mem_cons.1 member with rfl | member
      · exact less
      · exact String.lt_trans less (head entry member)
    next notLess =>
      split
      next same =>
        refine List.pairwise_cons.2 ⟨fun entry member => ?_, tail⟩
        exact same ▸ head entry member
      next different =>
        refine List.pairwise_cons.2 ⟨fun entry member => ?_, ih tail⟩
        rcases mem_insertEntry member with rfl | member
        · exact Std.lt_of_le_of_ne (String.not_lt.1 notLess) (Ne.symm different)
        · exact head entry member

@[simp]
theorem valueOf?_nil {α : Type} (name : String) : valueOf? name ([] : List (String × α)) = none :=
  rfl

theorem valueOf?_cons {α : Type} (name : String) (entry : String × α)
    (entries : List (String × α)) :
    valueOf? name (entry :: entries) =
      if name = entry.1 then some entry.2 else valueOf? name entries := by
  by_cases same : name = entry.1
  · simp [valueOf?, same]
  · simp [valueOf?, same, Ne.symm same]

theorem valueOf?_insertEntry {α : Type} (name other : String) (value : α)
    (entries : List (String × α)) :
    valueOf? other (insertEntry name value entries) =
      if other = name then some value else valueOf? other entries := by
  induction entries with
  | nil => rw [insertEntry, valueOf?_cons]
  | cons first rest ih =>
    rw [insertEntry]
    split
    next less => rw [valueOf?_cons]
    next notLess =>
      split
      next same =>
        rw [valueOf?_cons, valueOf?_cons, ← same]
        split <;> rfl
      next different =>
        rw [valueOf?_cons, ih, valueOf?_cons]
        grind

structure Dict (α : Type) where
  entries : List (String × α)
  ascending : Ascending entries
deriving DecidableEq

namespace Dict

variable {α : Type}

def empty : Dict α := ⟨[], List.Pairwise.nil⟩

instance : EmptyCollection (Dict α) := ⟨empty⟩

instance : Inhabited (Dict α) := ⟨empty⟩

/-- With a value for a name, which an earlier one of that name gives way to. -/
def insert (d : Dict α) (name : String) (value : α) : Dict α :=
  ⟨insertEntry name value d.entries, ascending_insertEntry name value d.ascending⟩

def get? (d : Dict α) (name : String) : Option α := valueOf? name d.entries

/-- Of entries in any order; of one name the last counts. -/
def ofList (entries : List (String × α)) : Dict α :=
  entries.foldl (fun d entry => d.insert entry.1 entry.2) empty

theorem get?_insert (d : Dict α) (name other : String) (value : α) :
    (d.insert name value).get? other = if other = name then some value else d.get? other :=
  valueOf?_insertEntry name other value d.entries

/-- Of one name the last entry is found. -/
theorem get?_ofList (entries : List (String × α)) (name : String) :
    (ofList entries).get? name = valueOf? name entries.reverse := by
  rw [ofList, List.foldl_eq_foldr_reverse]
  induction entries.reverse with
  | nil => rfl
  | cons entry earlier ih => rw [List.foldr_cons, get?_insert, ih, valueOf?_cons]

theorem ext {d e : Dict α} (same : d.entries = e.entries) : d = e := by
  cases d; cases e; simpa using same

end Dict

end SyncPods
