import SyncPods.Proofs.LayeredSettings

/-!
# One variable among others

A variable whose path of names all others leave at some name could as well be put over everything
else: `layeredTree_variable`. So the trees with it and without it differ at its path alone.
-/

namespace SyncPods

/-! ## Entries -/

section Entries

variable {α : Type} {name other : String} (value value' : α)

theorem insertEntry_comm (different : name ≠ other) (entries : List (String × α)) :
    insertEntry name value (insertEntry other value' entries) =
      insertEntry other value' (insertEntry name value entries) := by
  induction entries with
  | nil => grind [insertEntry]
  | cons entry entries ih => grind [insertEntry]

theorem insertEntry_again (name : String) (entries : List (String × α)) :
    insertEntry name value (insertEntry name value' entries) = insertEntry name value entries := by
  induction entries with
  | nil => simp [insertEntry]
  | cons entry entries ih =>
      rw [insertEntry, insertEntry]
      split
      · simp [insertEntry]
      · split
        · simp [insertEntry]
        · next notLess different => rw [insertEntry, if_neg notLess, if_neg different, ih]

theorem insertEntry_split (fresh : ∀ entry ∈ entries, entry.1 ≠ name) :
    ∃ before after, entries = before ++ after ∧
      insertEntry name value entries = before ++ (name, value) :: after := by
  induction entries with
  | nil => exact ⟨[], [], rfl, rfl⟩
  | cons entry entries ih =>
      rw [insertEntry]
      split
      · exact ⟨[], entry :: entries, rfl, rfl⟩
      · rw [if_neg (fresh entry List.mem_cons_self).symm]
        obtain ⟨before, after, split, inserted⟩ :=
          ih fun entry listed => fresh entry (List.mem_cons_of_mem _ listed)
        exact ⟨entry :: before, after, by rw [split, List.cons_append],
          by rw [inserted, List.cons_append]⟩

/-- An entry could as well be put in behind those of other names. -/
theorem foldl_insertEntry_middle (before : List (String × α)) {after : List (String × α)}
    (fresh : ∀ entry ∈ after, entry.1 ≠ name) (sofar : List (String × α)) :
    (before ++ (name, value) :: after).foldl
        (fun sofar entry => insertEntry entry.1 entry.2 sofar) sofar =
      insertEntry name value ((before ++ after).foldl
        (fun sofar entry => insertEntry entry.1 entry.2 sofar) sofar) := by
  rw [List.foldl_append, List.foldl_append, List.foldl_cons]
  generalize before.foldl (fun sofar entry => insertEntry entry.1 entry.2 sofar) sofar = sofar
  induction after generalizing sofar with
  | nil => rfl
  | cons entry after ih =>
      have different := fresh entry List.mem_cons_self
      rw [List.foldl_cons, List.foldl_cons, insertEntry_comm _ _ different,
        ih fun entry listed => fresh entry (List.mem_cons_of_mem _ listed)]

theorem mem_foldl_insertEntry {entry : String × α} {entries sofar : List (String × α)}
    (listed : entry ∈ entries.foldl
      (fun sofar entry => insertEntry entry.1 entry.2 sofar) sofar) :
    entry ∈ entries ∨ entry ∈ sofar := by
  induction entries generalizing sofar with
  | nil => exact Or.inr listed
  | cons first entries ih =>
      rcases ih listed with later | inserted
      · exact Or.inl (List.mem_cons_of_mem _ later)
      · rcases mem_insertEntry inserted with rfl | earlier
        · exact Or.inl List.mem_cons_self
        · exact Or.inr earlier

end Entries

namespace Layers

/-! ## Values put apart from each other -/

/-- Steps that leave the path of some names at a name. -/
def Leaves : List String → List Step → Prop
  | key :: keys, .name name :: steps => Text.toLower name ≠ Text.toLower key ∨ Leaves keys steps
  | _, _ => False

/-- Values at the paths, of which none is at the path of the names, under it or above it. -/
def AllLeave (keys : List String) (vars : List (String × String)) : Prop :=
  ∀ var ∈ vars, ∀ path, variablePath? var.1 = some path → Leaves keys (Path.steps path)

namespace Tree

variable {below : Option Tree} {tree value : Tree} {keys : List String} {steps : List Step}

/-- What becomes of what is at a name, with a value put at further steps from there. -/
def putUnder (value : Tree) : List Step → Option Tree → Option Tree
  | [], below => some (overlay below value)
  | step :: steps, below => Path.put value (step :: steps) below

theorem put_name_eq (value : Tree) (name : String) (steps : List Step) :
    Path.put value (.name name :: steps) below =
      (putUnder value steps (child? below (Text.toLower name))).map fun sub =>
        .table (tableParts below).1 (insertEntry (Text.toLower name) sub (tableParts below).2) := by
  cases steps with
  | nil => exact put_name value name
  | cons step steps => exact put_name_cons value name step steps

theorem putUnder_of_leaves (leaves : Leaves keys steps) :
    putUnder value steps below = Path.put value steps below := by
  cases steps with
  | nil => cases keys <;> cases leaves
  | cons step steps => rfl

theorem tableParts_table (origin : Option Origin) (entries : List (String × Tree)) :
    tableParts (some (.table origin entries)) = (origin, entries) := rfl

theorem child?_table {origin : Option Origin} {entries : List (String × Tree)} (key : String) :
    child? (some (.table origin entries)) key = valueOf? key entries := rfl

/-- A value alone at a path of names comes over whatever is put elsewhere. -/
theorem put_overlay_alone (other : Tree) (leaves : Leaves keys steps) :
    Path.put other steps (some (overlay below (alone value keys))) =
      (Path.put other steps below).map fun tree => overlay (some tree) (alone value keys) := by
  induction keys generalizing below steps with
  | nil => cases leaves
  | cons key keys ih =>
      match steps, leaves with
      | .name name :: steps, leaves =>
          simp only [put_name_eq, overlay_alone, tableParts_table, child?_table,
            valueOf?_insertEntry, Option.map_map]
          by_cases same : Text.toLower name = Text.toLower key
          · have further := leaves.resolve_left (not_not_intro same)
            rw [if_pos same, same, putUnder_of_leaves further, putUnder_of_leaves further,
              ih further, Option.map_map]
            congr 1
            funext sub
            simp only [Function.comp_apply, tableParts_table, child?_table, valueOf?_insertEntry,
              if_true, insertEntry_again]
          · rw [if_neg same]
            congr 1
            funext sub
            simp only [Function.comp_apply, tableParts_table, child?_table, valueOf?_insertEntry,
              if_neg (Ne.symm same), insertEntry_comm _ _ same]
            rfl

/-- Of two values alone at a path the last one counts. -/
theorem overlay_alone_again {value' : Tree} (isWhole : value.part.isTable = false)
    (keys : List String) :
    overlay (some (overlay below (alone value' keys))) (alone value keys) =
      overlay below (alone value keys) := by
  induction keys generalizing below with
  | nil => rw [alone, alone, overlay_of_notTable isWhole, overlay_of_notTable isWhole]
  | cons key keys ih =>
      simp only [overlay_alone, tableParts_table, child?_table, valueOf?_insertEntry, if_true, ih,
        insertEntry_again]

theorem putAll_append (entries entries' : List (String × Tree)) :
    tree.putAll (entries ++ entries') =
      (tree.putAll entries).bind fun tree => tree.putAll entries' :=
  List.foldlM_append

theorem putAll_overlay_alone {entries : List (String × Tree)}
    (leave : ∀ entry ∈ entries, Leaves keys (Path.steps entry.1)) :
    (overlay (some tree) (alone value keys)).putAll entries =
      (tree.putAll entries).map fun tree => overlay (some tree) (alone value keys) := by
  induction entries generalizing tree with
  | nil => rfl
  | cons entry entries ih =>
      have put : (overlay (some tree) (alone value keys)).putAt entry.1 entry.2 =
          (tree.putAt entry.1 entry.2).map fun tree => overlay (some tree) (alone value keys) :=
        put_overlay_alone entry.2 (leave entry List.mem_cons_self)
      rw [putAll_cons, putAll_cons, put, Option.bind_map, Option.map_bind]
      congr 1
      funext tree
      exact ih fun entry listed => leave entry (List.mem_cons_of_mem _ listed)

end Tree

/-! ## A variable that comes last -/

section Variable

variable {before after : List (String × String)} {name path text : String} {keys : List String}

theorem variableEntries_append (vars vars' : List (String × String)) :
    variableEntries (vars ++ vars') = variableEntries vars ++ variableEntries vars' :=
  List.filterMap_append

theorem variableEntries_cons (isPath : variablePath? name = some path) (text : String)
    (vars : List (String × String)) :
    variableEntries ((name, text) :: vars) =
      (path, variableTree path text) :: variableEntries vars :=
  List.filterMap_cons_some (by simp only [isPath, Option.map_some])

theorem mem_variableEntries {vars : List (String × String)} {entry : String × Tree}
    (listed : entry ∈ variableEntries vars) :
    ∃ var ∈ vars, variablePath? var.1 = some entry.1 := by
  obtain ⟨⟨name, text⟩, set, given⟩ := List.mem_filterMap.mp listed
  obtain ⟨path, isPath, rfl⟩ := Option.map_eq_some_iff.mp given
  exact ⟨(name, text), set, isPath⟩

theorem not_leaves_self (keys : List String) : ¬Leaves keys (keys.map .name) := by
  induction keys with
  | nil => exact id
  | cons key keys ih => exact fun leaves => leaves.elim (fun different => different rfl) ih

theorem variableLayer_middle (isPath : variablePath? name = some path)
    (steps : Path.steps path = keys.map .name) (leave : AllLeave keys (before ++ after)) :
    variableLayer (before ++ (name, text) :: after) =
      insertEntry path (variableTree path text) (variableLayer (before ++ after)) := by
  have fresh : ∀ entry ∈ variableEntries after, entry.1 ≠ path := by
    intro entry listed same
    obtain ⟨var, listed, isPath'⟩ := mem_variableEntries listed
    have leaves := leave var (List.mem_append_right before listed) _ isPath'
    rw [same, steps] at leaves
    exact not_leaves_self keys leaves
  rw [variableLayer_eq, variableLayer_eq, variableEntries_append, variableEntries_append,
    variableEntries_cons isPath, foldl_insertEntry_middle _ _ fresh]

theorem layeredTree_eq_bind (files : String → Option String) (environment : Environment)
    (vars : List (String × String)) :
    layeredTree files environment vars =
      layeredTree files environment [] >>= fun tree => putLayer tree (variableLayer vars) := by
  have nothing (tree : Tree) : putLayer tree (variableLayer []) = .ok tree := rfl
  simp only [layeredTree, nothing]
  cases findFile files baseFile with
  | none => rfl
  | some base =>
      dsimp only
      cases putFile .void base.1 base.2 with
      | error fault => rfl
      | ok tree =>
          simp only [ok_bind]
          cases findFile files (environmentFile environment) with
          | none => rfl
          | some file =>
              dsimp only
              cases putFile tree file.1 file.2 <;> rfl

theorem putLayer_variable {tree : Tree} (isPath : variablePath? name = some path)
    (nonempty : keys ≠ []) (steps : Path.steps path = keys.map .name)
    (leave : AllLeave keys (before ++ after)) :
    putLayer tree (variableLayer (before ++ (name, text) :: after)) =
      (putLayer tree (variableLayer (before ++ after))).map fun tree =>
        Tree.overlay (some tree) (Tree.alone (variableTree path text) keys) := by
  have leaveAll : ∀ entry ∈ variableLayer (before ++ after), Leaves keys (Path.steps entry.1) := by
    intro entry listed
    rw [variableLayer_eq] at listed
    rcases mem_foldl_insertEntry listed with set | none'
    · obtain ⟨var, listed, isPath'⟩ := mem_variableEntries set
      exact leave var listed _ isPath'
    · cases none'
  have fresh : ∀ entry ∈ variableLayer (before ++ after), entry.1 ≠ path := by
    intro entry listed same
    have leaves := leaveAll entry listed
    rw [same, steps] at leaves
    exact not_leaves_self keys leaves
  obtain ⟨key, keys, rfl⟩ := List.exists_cons_of_ne_nil nonempty
  have put (tree : Tree) : tree.putAt path (variableTree path text) =
      some (Tree.overlay (some tree) (Tree.alone (variableTree path text) (key :: keys))) := by
    rw [Tree.putAt, steps, Tree.put_names]
  obtain ⟨first, last, split, inserted⟩ := insertEntry_split (variableTree path text) fresh
  have leaveLast : ∀ entry ∈ last, Leaves (key :: keys) (Path.steps entry.1) := fun entry listed =>
    leaveAll entry (split ▸ List.mem_append_right first listed)
  have all : tree.putAll (variableLayer (before ++ (name, text) :: after)) =
      (tree.putAll (variableLayer (before ++ after))).map fun tree =>
        Tree.overlay (some tree) (Tree.alone (variableTree path text) (key :: keys)) := by
    rw [variableLayer_middle isPath steps leave, inserted, split, Tree.putAll_append,
      Tree.putAll_append, Option.map_bind]
    congr 1
    funext tree
    rw [Tree.putAll_cons, put, Option.bind_some, Tree.putAll_overlay_alone leaveLast]
    rfl
  rw [putLayer, putLayer, all]
  cases tree.putAll (variableLayer (before ++ after)) <;> rfl

/-- The tree with a variable that all others leave is the one without it, with the value at its
path. -/
theorem layeredTree_variable (files : String → Option String) (environment : Environment)
    (isPath : variablePath? name = some path)
    (nonempty : keys ≠ []) (steps : Path.steps path = keys.map .name)
    (leave : AllLeave keys (before ++ after)) :
    layeredTree files environment (before ++ (name, text) :: after) =
      (layeredTree files environment (before ++ after)).map fun tree =>
        Tree.overlay (some tree) (Tree.alone (variableTree path text) keys) := by
  rw [layeredTree_eq_bind, layeredTree_eq_bind files environment (before ++ after)]
  cases layeredTree files environment [] with
  | error failure => rfl
  | ok tree => exact putLayer_variable isPath nonempty steps leave

end Variable

end Layers

end SyncPods
