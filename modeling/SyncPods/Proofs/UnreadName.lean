import SyncPods.Proofs.VariableOverride

/-!
# Names that no field has

A scalar at a name of the root that is no field's plays no part: it is not read, and what is put
beside it, over it or under it is put the same way whatever it is. So a variable of such a name can
have any text: `loadFor_unread`.
-/

namespace SyncPods

/-! ## Entries with other values -/

section Entries

variable {α β : Type}

/-- Entries with a value of each name in the place of the one that there is. -/
def mapValues (f : String → α → β) (entries : List (String × α)) : List (String × β) :=
  entries.map fun entry => (entry.1, f entry.1 entry.2)

variable (f : String → α → β)

theorem valueOf?_mapValues (name : String) (entries : List (String × α)) :
    valueOf? name (mapValues f entries) = (valueOf? name entries).map (f name) := by
  induction entries with
  | nil => rfl
  | cons entry entries ih =>
      rw [mapValues, List.map_cons, valueOf?_cons, valueOf?_cons]
      by_cases same : name = entry.1
      · rw [if_pos same, if_pos same, same, Option.map_some]
      · rw [if_neg same, if_neg same]
        exact ih

theorem mapValues_insertEntry (name : String) (value : α) (entries : List (String × α)) :
    mapValues f (insertEntry name value entries) =
      insertEntry name (f name value) (mapValues f entries) := by
  induction entries with
  | nil => rfl
  | cons entry entries ih =>
      rw [insertEntry, mapValues, mapValues, List.map_cons, insertEntry]
      split
      · rfl
      · split
        · rfl
        · exact congrArg ((entry.1, f entry.1 entry.2) :: ·) ih

theorem mapValues_foldl_insertEntry (entries sofar : List (String × α)) :
    mapValues f (entries.foldl (fun sofar entry => insertEntry entry.1 entry.2 sofar) sofar) =
      (mapValues f entries).foldl (fun sofar entry => insertEntry entry.1 entry.2 sofar)
        (mapValues f sofar) := by
  induction entries generalizing sofar with
  | nil => rfl
  | cons entry entries ih =>
      rw [List.foldl_cons, ih, mapValues_insertEntry]
      rfl

end Entries

namespace Layers

/-- The names of the fields of the settings. -/
def fieldNames : List String := ["data_plane", "kubernetes", "feature_flags", "scripts", "sentry"]

namespace Tree

/-- A value, with every scalar taken for the same one. -/
def blanked : Tree → Tree
  | scalar _ _ => filler
  | tree => tree

/-- The value of a name, blanked if it is the name of the key. -/
def blankedAt (key name : String) (value : Tree) : Tree :=
  if name = key then value.blanked else value

/-- A tree with the value of the key blanked. -/
def withBlank (key : String) : Tree → Tree
  | table origin entries => table origin (mapValues (blankedAt key) entries)
  | tree => tree

variable {key path : String} {tree value : Tree} {below : Option Tree}

theorem blankedAt_self (key : String) : blankedAt key key = blanked :=
  funext fun _ => if_pos rfl

theorem blankedAt_of_ne {name : String} (different : name ≠ key) : blankedAt key name = id :=
  funext fun _ => if_neg different

theorem blanked_blanked (value : Tree) : value.blanked.blanked = value.blanked := by
  cases value <;> rfl

theorem mapValues_blankedAt (key : String) (entries : List (String × Tree)) :
    mapValues (blankedAt key) (mapValues (blankedAt key) entries) =
      mapValues (blankedAt key) entries := by
  rw [mapValues, mapValues, List.map_map]
  refine List.map_congr_left fun entry _ => ?_
  by_cases same : entry.1 = key
  · simp only [Function.comp_apply, same, blankedAt_self, blanked_blanked]
  · simp only [Function.comp_apply, blankedAt_of_ne same, id]

theorem withBlank_withBlank (key : String) (tree : Tree) :
    (tree.withBlank key).withBlank key = tree.withBlank key := by
  cases tree with
  | table origin entries => exact congrArg (table origin) (mapValues_blankedAt key entries)
  | _ => rfl

/-! ## Values put beside a scalar and in its place -/

theorem tableParts_withBlank (key : String) (tree : Tree) :
    tableParts (some (tree.withBlank key)) =
      ((tableParts (some tree)).1, mapValues (blankedAt key) (tableParts (some tree)).2) := by
  cases tree <;> rfl

theorem child?_withBlank (key : String) (tree : Tree) (name : String) :
    child? (some (tree.withBlank key)) name = (child? (some tree) name).map (blankedAt key name) := by
  rw [child?, tableParts_withBlank, valueOf?_mapValues, child?]

theorem overlay_blanked (below : Option Tree) (value : Tree) :
    (overlay (below.map blanked) value).blanked = (overlay below value).blanked := by
  cases value with
  | scalar origin scalar => rfl
  | list origin items => rfl
  | table origin entries =>
      cases entries with
      | nil =>
          cases below with
          | none => rfl
          | some tree => exact blanked_blanked tree
      | cons entry entries =>
          have parts : tableParts (below.map blanked) = tableParts below := by
            rcases below with _ | (_ | _ | _) <;> rfl
          rw [overlay, overlay, parts]

theorem overlay_blanked_value (below : Option Tree) (value : Tree) :
    (overlay below value.blanked).blanked = (overlay below value).blanked := by
  cases value <;> rfl

theorem put_blanked (value : Tree) (step : Step) (steps : List Step) (below : Option Tree) :
    Path.put value (step :: steps) (below.map blanked) = Path.put value (step :: steps) below := by
  rcases below with _ | (_ | _ | _)
  · rfl
  · cases step <;> cases steps <;> rfl
  · rfl
  · rfl

theorem putUnder_blanked (value : Tree) (steps : List Step) (below : Option Tree) :
    (putUnder value steps (below.map blanked)).map blanked =
      (putUnder value steps below).map blanked := by
  cases steps with
  | nil => exact congrArg some (overlay_blanked below value)
  | cons step steps => rw [putUnder, putUnder, put_blanked]

theorem putUnder_blankedAt (isName : IsName key) {name : String} {steps : List Step}
    (leads : Path.steps path = .name name :: steps) (value : Tree) (below : Option Tree) :
    (putUnder (blankedAt key path value) steps
        (below.map (blankedAt key (Text.toLower name)))).map (blankedAt key (Text.toLower name)) =
      (putUnder value steps below).map (blankedAt key (Text.toLower name)) := by
  by_cases atKey : path = key
  · -- The path of a plain name is that name alone.
    subst atKey
    rw [Path.steps_of_isPlain isName.isPlain] at leads
    cases leads
    rw [isName.isPlain.1, blankedAt_self]
    exact congrArg some ((overlay_blanked _ _).trans (overlay_blanked_value _ _))
  · rw [blankedAt_of_ne atKey, id]
    by_cases under : Text.toLower name = key
    · rw [under, blankedAt_self]
      exact putUnder_blanked value steps below
    · rw [blankedAt_of_ne under, Option.map_id]
      rfl

/-- What is put into a tree does not depend on a scalar at the key, nor does it matter which scalar
is put there. -/
theorem withBlank_putAt (isName : IsName key) (tree : Tree) (path : String) (value : Tree) :
    ((tree.withBlank key).putAt path (blankedAt key path value)).map (withBlank key) =
      (tree.putAt path value).map (withBlank key) := by
  obtain ⟨name, steps, leads⟩ := exists_steps_eq path
  have sub := putUnder_blankedAt isName leads value (child? (some tree) (Text.toLower name))
  have put := congrArg (Option.map fun sub => table (tableParts (some tree)).1
    (insertEntry (Text.toLower name) sub
      (mapValues (blankedAt key) (tableParts (some tree)).2))) sub
  rw [Option.map_map, Option.map_map] at put
  rw [putAt, putAt, leads, put_name_eq, put_name_eq, Option.map_map, Option.map_map,
    child?_withBlank, tableParts_withBlank]
  simpa only [Function.comp_def, withBlank, mapValues_insertEntry, mapValues_blankedAt] using put

theorem putAt_congr {tree' value' : Tree} (isName : IsName key)
    (sameValue : blankedAt key path value = blankedAt key path value')
    (same : tree.withBlank key = tree'.withBlank key) :
    (tree.putAt path value).map (withBlank key) =
      (tree'.putAt path value').map (withBlank key) := by
  rw [← withBlank_putAt isName, ← withBlank_putAt isName tree', sameValue, same]

theorem putAll_congr {tree' : Tree} {entries entries' : List (String × Tree)}
    (isName : IsName key)
    (sameEntries : mapValues (blankedAt key) entries = mapValues (blankedAt key) entries')
    (same : tree.withBlank key = tree'.withBlank key) :
    (tree.putAll entries).map (withBlank key) = (tree'.putAll entries').map (withBlank key) := by
  induction entries generalizing entries' tree tree' with
  | nil =>
      cases entries' with
      | nil => exact congrArg some same
      | cons entry' entries' => cases sameEntries
  | cons entry entries ih =>
      cases entries' with
      | nil => cases sameEntries
      | cons entry' entries' =>
          obtain ⟨path, value⟩ := entry
          obtain ⟨path', value'⟩ := entry'
          rw [mapValues, mapValues, List.map_cons, List.map_cons] at sameEntries
          obtain ⟨sameFirst, sameRest⟩ := List.cons.inj sameEntries
          obtain ⟨rfl, sameValue⟩ := Prod.mk.inj sameFirst
          have put := putAt_congr isName sameValue same
          -- Either both first values find their place, in trees that are alike again, or none does.
          rw [putAll_cons, putAll_cons]
          cases first : tree.putAt path value with
          | none =>
              rw [first, Option.map_none] at put
              rw [Option.map_eq_none_iff.mp put.symm]
              rfl
          | some tree₁ =>
              rw [first, Option.map_some] at put
              obtain ⟨tree₁', first', same₁⟩ := Option.map_eq_some_iff.mp put.symm
              rw [first', Option.bind_some, Option.bind_some]
              exact ih sameRest same₁.symm

end Tree

/-! ## Settings -/

section Reading

variable {key : String}

theorem foundIn_mapValues {name : String} (different : name ≠ key) (trail : List Link)
    (entries : List (String × Tree)) :
    (foundIn trail (mapValues (Tree.blankedAt key) entries)).node? name =
      (foundIn trail entries).node? name := by
  rw [foundIn_node?, foundIn_node?, valueOf?_mapValues, Tree.blankedAt_of_ne different,
    Option.map_id, id]

theorem readEntry_blankedAt {α : Type} {shape : Shape Located ReadFailure α}
    (unread : valueOf? key shape.fields = none) (trail : List Link) (entry : String × Tree) :
    readEntry shape trail (entry.1, Tree.blankedAt key entry.1 entry.2) =
      readEntry shape trail entry := by
  by_cases atKey : entry.1 = key
  · rw [readEntry, readEntry, atKey, unread]
  · rw [Tree.blankedAt_of_ne atKey]
    rfl

theorem record_withBlank {α : Type} {shape : Shape Located ReadFailure α} (type : String)
    {trail : List Link} {origin : Option Origin} {entries : List (String × Tree)}
    (unread : valueOf? key shape.fields = none)
    (built : shape.build (foundIn trail (mapValues (Tree.blankedAt key) entries)) =
      shape.build (foundIn trail entries)) :
    Located.record type shape ⟨trail, (Tree.table origin entries).withBlank key⟩ =
      Located.record type shape ⟨trail, .table origin entries⟩ := by
  rw [Tree.withBlank, record_table, record_table, mapValues, List.forIn_map]
  simp only [readEntry_blankedAt unread]
  exact congrArg (forIn entries () (fun entry _ => readEntry shape trail entry) >>= fun _ => ·) built

theorem read_withBlank (unread : key ∉ fieldNames) (origin : Option Origin)
    (entries : List (String × Tree)) :
    Settings.read (Located.mk [] ((Tree.table origin entries).withBlank key)) =
      Settings.read (Located.mk [] (.table origin entries)) := by
  refine record_withBlank "LauncherConfig" ?_ ?_
  · exact valueOf?_eq_none_iff.mpr unread
  · have different : ∀ name ∈ fieldNames, name ≠ key :=
      fun name listed same => unread (same ▸ listed)
    simp only [fieldNames, List.forall_mem_cons] at different
    obtain ⟨noPlane, noCluster, noFlags, noConventions, noTracking, _⟩ := different
    simp only [Shape.build_seq, Shape.build_map, Shape.build_required, Shape.build_optional,
      Shape.build_withDefault, foundIn_mapValues noPlane, foundIn_mapValues noCluster,
      foundIn_mapValues noFlags, foundIn_mapValues noConventions, foundIn_mapValues noTracking]
    rfl

/-- Settings are read without a look at a scalar at a name that no field has. -/
theorem settingsOf_withBlank (unread : key ∉ fieldNames) (tree : Tree) :
    settingsOf (tree.withBlank key) = settingsOf tree := by
  cases tree with
  | table origin entries =>
      rw [settingsOf, settingsOf, read_withBlank unread]
  | _ => rfl

end Reading

/-! ## Variables -/

section Variables

variable {key name : String}

theorem blanked_variableTree (notList : key ≠ listPath) (text : String) :
    (variableTree key text).blanked = Tree.filler := by
  rw [variableTree_of_ne notList]
  rfl

/-- The layers of variables that differ in one text are the same but for a scalar. -/
theorem mapValues_variableLayer (isPath : variablePath? name = some key) (notList : key ≠ listPath)
    (before after : List (String × String)) (text text' : String) :
    mapValues (Tree.blankedAt key) (variableLayer (before ++ (name, text) :: after)) =
      mapValues (Tree.blankedAt key) (variableLayer (before ++ (name, text') :: after)) := by
  have parts (text : String) : mapValues (Tree.blankedAt key)
      (variableEntries (before ++ (name, text) :: after)) =
        mapValues (Tree.blankedAt key) (variableEntries before) ++
          (key, .filler) :: mapValues (Tree.blankedAt key) (variableEntries after) := by
    rw [variableEntries_append, variableEntries_cons isPath, mapValues, List.map_append,
      List.map_cons, Tree.blankedAt_self, blanked_variableTree notList]
    rfl
  rw [variableLayer_eq, variableLayer_eq, mapValues_foldl_insertEntry,
    mapValues_foldl_insertEntry, parts, parts]

theorem settings_putLayer (isName : IsName key) (unread : key ∉ fieldNames) (tree : Tree)
    {layer layer' : List (String × Tree)}
    (same : mapValues (Tree.blankedAt key) layer = mapValues (Tree.blankedAt key) layer') :
    putLayer tree layer >>= settingsOf = putLayer tree layer' >>= settingsOf := by
  have put : (tree.putAll layer).map (Tree.withBlank key) =
      (tree.putAll layer').map (Tree.withBlank key) := Tree.putAll_congr isName same rfl
  rw [putLayer, putLayer]
  cases first : tree.putAll layer with
  | none =>
      rw [first, Option.map_none] at put
      rw [Option.map_eq_none_iff.mp put.symm]
  | some made =>
      rw [first, Option.map_some] at put
      obtain ⟨made', first', alike⟩ := Option.map_eq_some_iff.mp put.symm
      rw [first']
      show settingsOf made = settingsOf made'
      rw [← settingsOf_withBlank unread made, ← alike, settingsOf_withBlank unread]

/-- The text of a variable that sets no field is immaterial. -/
theorem loadFor_unread (environment : Environment) (files : String → Option String)
    (isPath : variablePath? name = some key) (isName : IsName key) (unread : key ∉ fieldNames)
    (before after : List (String × String)) (text text' : String) :
    loadFor environment files (before ++ (name, text) :: after) =
      loadFor environment files (before ++ (name, text') :: after) := by
  have notList : key ≠ listPath := by
    rintro rfl
    exact absurd isName.isPlain.2.1 (by decide)
  have same := mapValues_variableLayer isPath notList before after text text'
  rw [loadFor, loadFor, layeredTree_eq_bind, layeredTree_eq_bind files environment
    (before ++ (name, text') :: after), bind_assoc, bind_assoc]
  congr 1
  funext tree
  exact settings_putLayer isName unread tree same

end Variables

end Layers

end SyncPods
