import SyncPods.Layers.File
import SyncPods.Layers.Path
import SyncPods.Proofs.LogStream

/-!
# Trees by their paths

What a tree has at a path of names is a table or a value that counts as a whole. One tree put over
another has at each path what it has itself, and what the other has where it has nothing:
`view_overlay`. A tree in the form that layers are put together in is known by that.
-/

namespace SyncPods.Layers

/-- What is at a path: a table, of which longer paths tell, or a value that counts as a whole. -/
inductive Part where
  | table
  | whole (value : Tree)

def Part.isTable : Part → Bool
  | .table => true
  | .whole _ => false

/-- What one layer, or several, have at each path of names. -/
abbrev View := List String → Option Part

namespace View

/-- No path leads to a table in one of them and to something else in the other. -/
def Agree (v w : View) : Prop :=
  ∀ path p q, v path = some p → w path = some q → p.isTable = q.isTable

/-- What there is over something else, and the latter where there is nothing. -/
def upon (v w : View) : View := fun path => (v path).or (w path)

variable {v w : View}

theorem Agree.symm (agree : v.Agree w) : w.Agree v :=
  fun path p q given given' => (agree path q p given' given).symm

theorem Agree.upon {u : View} (agree : u.Agree v) (agree' : u.Agree w) : u.Agree (v.upon w) := by
  intro path p q given found
  rcases Option.or_eq_some_iff.mp found with upper | ⟨_, lower⟩
  · exact agree path p q given upper
  · exact agree' path p q given lower

end View

namespace Tree

/-- The entry of a name, where there is a table. -/
def child? (below : Option Tree) (key : String) : Option Tree := valueOf? key (tableParts below).2

/-- What a path of names leads to. -/
def at? : Tree → List String → Option Tree
  | tree, [] => some tree
  | tree, key :: path => (tree.get? key).bind fun sub => at? sub path

def part : Tree → Part
  | .table _ _ => .table
  | value => .whole value

def view (tree : Tree) : View := fun path => (tree.at? path).map part

/-- What there is at each path, if there is a tree. -/
def viewOf (below : Option Tree) : View := fun path => below.bind fun tree => tree.view path

/-- A tree as a layer has it: its tables are in the order of their names, which are in small
letters. -/
def Regular (tree : Tree) : Prop :=
  ∀ path origin entries, tree.at? path = some (.table origin entries) →
    Ascending entries ∧ ∀ entry ∈ entries, Text.toLower entry.1 = entry.1

/-- A tree as layers are put together: its tables have no origin and are in the order of their
names. -/
def Merged (tree : Tree) : Prop :=
  ∀ path origin entries, tree.at? path = some (.table origin entries) →
    origin = none ∧ Ascending entries

/-- A value with nothing but its path around it. -/
def alone (value : Tree) : List String → Tree
  | [] => value
  | key :: path => .table none [(key, alone value path)]

variable {below : Option Tree} {tree sub : Tree} {key : String} {path : List String}
  {entries : List (String × Tree)}

/-! ## Paths -/

theorem view_nil : tree.view [] = some tree.part := rfl

theorem viewOf_some : viewOf (some tree) = tree.view := rfl

theorem viewOf_cons : viewOf below (key :: path) = viewOf (child? below key) path := by
  cases below with
  | none => rfl
  | some tree =>
      show ((tree.get? key).bind fun sub => sub.at? path).map part = _
      rw [Option.map_bind]
      rfl

theorem view_cons : tree.view (key :: path) = viewOf (child? (some tree) key) path := by
  rw [← viewOf_some, viewOf_cons]

theorem agree_child {w : View} (agree : (viewOf below).Agree w) (key : String) :
    (viewOf (child? below key)).Agree fun path => w (key :: path) := by
  intro path p q given given'
  rw [← viewOf_cons] at given
  exact agree (key :: path) p q given given'

theorem at?_append (path path' : List String) :
    tree.at? (path ++ path') = (tree.at? path).bind fun sub => sub.at? path' := by
  induction path generalizing tree with
  | nil => rfl
  | cons key path ih =>
      rw [List.cons_append, at?, at?, Option.bind_assoc]
      congr 1
      funext sub
      exact ih

theorem Regular.child (regular : tree.Regular) (key : String) (found : tree.get? key = some sub) :
    sub.Regular := by
  intro path origin entries reached
  refine regular (key :: path) origin entries ?_
  rw [at?, found, Option.bind_some, reached]

theorem Merged.child (merged : tree.Merged) (key : String) (found : tree.get? key = some sub) :
    sub.Merged := by
  intro path origin entries reached
  refine merged (key :: path) origin entries ?_
  rw [at?, found, Option.bind_some, reached]

mutual

/-- The paths that lead anywhere. -/
def paths : Tree → List (List String)
  | .table _ entries => [] :: entryPaths entries
  | _ => [[]]

def entryPaths : List (String × Tree) → List (List String)
  | [] => []
  | (key, tree) :: rest => (paths tree).map (key :: ·) ++ entryPaths rest

end

theorem mem_entryPaths (listed : (key, sub) ∈ entries) (leads : path ∈ sub.paths) :
    key :: path ∈ entryPaths entries := by
  induction entries with
  | nil => cases listed
  | cons entry rest ih =>
      obtain ⟨name, tree⟩ := entry
      rw [entryPaths, List.mem_append]
      rcases List.mem_cons.mp listed with same | later
      · obtain ⟨rfl, rfl⟩ := Prod.mk.inj same
        exact Or.inl (List.mem_map_of_mem leads)
      · exact Or.inr (ih later)

theorem mem_paths {p : Part} (there : tree.view path = some p) : path ∈ tree.paths := by
  induction path generalizing tree with
  | nil => cases tree <;> simp [paths]
  | cons key path ih =>
      rw [view_cons] at there
      obtain ⟨sub, found, inside⟩ := Option.bind_eq_some_iff.mp there
      cases tree with
      | scalar origin value => cases found
      | list origin items => cases found
      | table origin entries =>
          rw [paths]
          exact List.mem_cons_of_mem _ (mem_entryPaths (mem_of_valueOf?_eq_some found) (ih inside))

instance decidableAgree (tree : Tree) (v : View) : Decidable (tree.view.Agree v) :=
  decidable_of_iff (∀ path ∈ tree.paths, ∀ p ∈ tree.view path, ∀ q ∈ v path,
      p.isTable = q.isTable)
    ⟨fun agree path p q given => agree path (mem_paths given) p given q,
      fun agree path _ p given q given' => agree path p q given given'⟩

/-! ## One tree over another -/

theorem ascending_overlayEntries (order : Ascending entries) (later : List (String × Tree)) :
    Ascending (overlayEntries entries later) := by
  induction later generalizing entries with
  | nil => rwa [overlayEntries]
  | cons entry later ih =>
      rw [overlayEntries]
      exact ih (ascending_insertEntry _ _ order)

theorem valueOf?_overlayEntries {later : List (String × Tree)} (order : Ascending later)
    (small : ∀ entry ∈ later, Text.toLower entry.1 = entry.1) :
    valueOf? key (overlayEntries entries later) =
      ((valueOf? key later).map (overlay (valueOf? key entries))).or (valueOf? key entries) := by
  induction later generalizing entries with
  | nil => rw [overlayEntries, valueOf?_nil, Option.map_none, Option.none_or]
  | cons entry later ih =>
      obtain ⟨smaller, ordered⟩ := List.pairwise_cons.mp order
      obtain ⟨name, tree⟩ := entry
      have smallName : Text.toLower name = name := small (name, tree) List.mem_cons_self
      have smallLater : ∀ entry ∈ later, Text.toLower entry.1 = entry.1 :=
        fun entry listed => small entry (List.mem_cons_of_mem _ listed)
      rw [overlayEntries, ih ordered smallLater, smallName, valueOf?_insertEntry, valueOf?_cons]
      by_cases same : key = name
      · -- A name comes once in a table, so nothing later is put over this one again.
        have once : valueOf? key later = none := by
          rw [valueOf?_eq_none_iff]
          intro again
          obtain ⟨entry, listed, again⟩ := List.mem_map.mp again
          have less : name < entry.1 := smaller entry listed
          rw [again, same] at less
          exact String.lt_irrefl _ less
        rw [if_pos same, if_pos same, once, same]
        rfl
      · rw [if_neg same, if_neg same]

theorem child?_overlay {origin : Option Origin} (order : Ascending entries)
    (small : ∀ entry ∈ entries, Text.toLower entry.1 = entry.1) :
    child? (some (overlay below (.table origin entries))) key =
      ((valueOf? key entries).map (overlay (child? below key))).or (child? below key) := by
  cases entries with
  | nil =>
      rw [overlay]
      cases below <;> rfl
  | cons entry rest =>
      rw [overlay]
      exact valueOf?_overlayEntries order small

theorem overlay_of_notTable (isWhole : tree.part.isTable = false) : overlay below tree = tree := by
  cases tree with
  | table origin entries => cases isWhole
  | scalar origin value => rw [overlay] <;> nofun
  | list origin items => rw [overlay] <;> nofun

theorem view_cons_of_notTable (isWhole : tree.part.isTable = false) :
    tree.view (key :: path) = none := by
  cases tree with
  | table origin entries => cases isWhole
  | scalar origin value => rfl
  | list origin items => rfl

theorem isTable_overlay {origin : Option Origin}
    (agree : (viewOf below).Agree (Tree.table origin entries).view) :
    (overlay below (.table origin entries)).part = .table := by
  cases entries with
  | cons entry rest => rw [overlay]; rfl
  | nil =>
      rw [overlay]
      cases below with
      | none => rfl
      | some tree =>
          have isTable : tree.part.isTable = true := agree [] _ _ rfl rfl
          cases tree with
          | table origin entries => rfl
          | scalar origin value => cases isTable
          | list origin items => cases isTable

/-- Below what is no table there is none either, so that nothing of it could show. -/
theorem view_overlay_of_notTable (isWhole : tree.part.isTable = false)
    (agree : (viewOf below).Agree tree.view) :
    (overlay below tree).view path = (tree.view path).or (viewOf below path) := by
  rw [overlay_of_notTable isWhole]
  cases path with
  | nil => rfl
  | cons key path =>
      rw [view_cons_of_notTable isWhole, Option.none_or]
      cases below with
      | none => rfl
      | some lower =>
          have same := agree [] _ _ view_nil view_nil
          exact (view_cons_of_notTable (same.trans isWhole)).symm

/-- One tree over another has at each path what it has itself, and where it has nothing, what the
other one has. -/
theorem view_overlay (regular : tree.Regular) (agree : (viewOf below).Agree tree.view) :
    (overlay below tree).view path = (tree.view path).or (viewOf below path) := by
  induction path generalizing below tree with
  | nil =>
      cases tree with
      | table origin entries => rw [view_nil, isTable_overlay agree]; rfl
      | scalar origin value => exact view_overlay_of_notTable rfl agree
      | list origin items => exact view_overlay_of_notTable rfl agree
  | cons key path ih =>
      cases tree with
      | scalar origin value => exact view_overlay_of_notTable rfl agree
      | list origin items => exact view_overlay_of_notTable rfl agree
      | table origin entries =>
          obtain ⟨order, small⟩ := regular [] origin entries rfl
          have here : child? (some (Tree.table origin entries)) key = valueOf? key entries := rfl
          rw [view_cons, view_cons, child?_overlay order small, viewOf_cons, here]
          cases found : valueOf? key entries with
          | none => rw [Option.map_none, Option.none_or]; rfl
          | some sub =>
              have inside := agree_child agree key
              simp only [view_cons, here, found] at inside
              exact ih (regular.child key found) inside

theorem tableParts_of_merged (merged : ∀ lower ∈ below, lower.Merged) :
    (tableParts below).1 = none ∧ Ascending (tableParts below).2 := by
  cases below with
  | none => exact ⟨rfl, List.Pairwise.nil⟩
  | some lower =>
      cases lower with
      | scalar origin value => exact ⟨rfl, List.Pairwise.nil⟩
      | list origin items => exact ⟨rfl, List.Pairwise.nil⟩
      | table origin entries => exact merged _ rfl [] origin entries rfl

theorem merged_void : void.Merged := by
  intro path origin entries reached
  cases path with
  | nil =>
      obtain ⟨rfl, rfl⟩ := Tree.table.inj (Option.some.inj reached)
      exact ⟨rfl, List.Pairwise.nil⟩
  | cons key path => cases reached

theorem at?_ne_table (isWhole : tree.part.isTable = false) (origin : Option Origin) :
    tree.at? path ≠ some (.table origin entries) := by
  intro reached
  cases tree with
  | table origin entries => cases isWhole
  | scalar origin value => cases path <;> cases reached
  | list origin items => cases path <;> cases reached

theorem regular_of_notTable (isWhole : tree.part.isTable = false) : tree.Regular :=
  fun _ origin _ reached => absurd reached (at?_ne_table isWhole origin)

theorem Merged.child?_some (merged : ∀ lower ∈ below, lower.Merged)
    (found : child? below key = some sub) : sub.Merged := by
  cases below with
  | none => cases found
  | some lower => exact (merged lower rfl).child key found

theorem root_overlay {origin origin' : Option Origin} {entries' : List (String × Tree)}
    (merged : ∀ lower ∈ below, lower.Merged)
    (root : overlay below (.table origin entries) = .table origin' entries') :
    origin' = none ∧ Ascending entries' := by
  cases entries with
  | nil =>
      rw [overlay] at root
      cases below with
      | none => exact merged_void [] origin' entries' (congrArg some root)
      | some lower => exact merged lower rfl [] origin' entries' (congrArg some root)
  | cons entry rest =>
      rw [overlay] at root
      obtain ⟨rfl, rfl⟩ := Tree.table.inj root
      obtain ⟨unknown, order⟩ := tableParts_of_merged merged
      exact ⟨unknown, ascending_overlayEntries order _⟩

theorem merged_overlay (merged : ∀ lower ∈ below, lower.Merged) (regular : tree.Regular) :
    (overlay below tree).Merged := by
  intro path
  induction path generalizing below tree with
  | nil =>
      intro origin entries reached
      cases tree with
      | scalar origin value => exact absurd reached (at?_ne_table rfl _)
      | list origin items => exact absurd reached (at?_ne_table rfl _)
      | table origin entries => exact root_overlay merged (Option.some.inj reached)
  | cons key path ih =>
      intro origin entries reached
      cases tree with
      | scalar origin value => exact absurd reached (at?_ne_table rfl _)
      | list origin items => exact absurd reached (at?_ne_table rfl _)
      | table origin entries =>
          obtain ⟨order, small⟩ := regular [] origin entries rfl
          obtain ⟨sub, found, reached⟩ := Option.bind_eq_some_iff.mp reached
          have inside := (child?_overlay order small).symm.trans found
          rcases Option.or_eq_some_iff.mp inside with upper | ⟨_, lower⟩
          · obtain ⟨value, given, rfl⟩ := Option.map_eq_some_iff.mp upper
            exact ih (fun _ => Merged.child?_some merged) (regular.child key given) _ _
              reached
          · exact Merged.child?_some merged lower path _ _ reached

theorem sizeOf_lt_of_valueOf? (found : valueOf? key entries = some sub) :
    sizeOf sub < sizeOf entries := by
  have listed := List.sizeOf_lt_of_mem (mem_of_valueOf?_eq_some found)
  have size : sizeOf (key, sub) = 1 + sizeOf key + sizeOf sub := rfl
  omega

/-- A tree in the form that layers are put together in is known by what it has at each path. -/
theorem eq_of_view_eq {tree other : Tree} (merged : tree.Merged) (merged' : other.Merged)
    (same : tree.view = other.view) : tree = other := by
  have root : tree.part = other.part := Option.some.inj (congrFun same [])
  match tree, other with
  | .scalar origin value, .scalar _ _ => exact Part.whole.inj root
  | .list origin items, .list _ _ => exact Part.whole.inj root
  | .table origin entries, .table origin' entries' =>
      obtain ⟨rfl, order⟩ := merged [] origin entries rfl
      obtain ⟨rfl, order'⟩ := merged' [] origin' entries' rfl
      refine congrArg _ (eq_of_ascending order order' fun key => ?_)
      have inside : viewOf (valueOf? key entries) = viewOf (valueOf? key entries') := by
        funext path
        have there := congrFun same (key :: path)
        rwa [view_cons, view_cons] at there
      cases found : valueOf? key entries with
      | none =>
          cases found' : valueOf? key entries' with
          | none => rfl
          | some sub' =>
              rw [found, found'] at inside
              cases congrFun inside []
      | some sub =>
          cases found' : valueOf? key entries' with
          | none =>
              rw [found, found'] at inside
              cases congrFun inside []
          | some sub' =>
              rw [found, found', viewOf_some, viewOf_some] at inside
              have smaller := sizeOf_lt_of_valueOf? found
              exact congrArg some
                (eq_of_view_eq (merged.child key found) (merged'.child key found')
                  inside)
  | .scalar _ _, .list _ _ => cases root
  | .scalar _ _, .table _ _ => cases root
  | .list _ _, .scalar _ _ => cases root
  | .list _ _, .table _ _ => cases root
  | .table _ _, .scalar _ _ => cases root
  | .table _ _, .list _ _ => cases root
termination_by sizeOf tree

/-! ## Values put at paths -/

/-- What a single value has at each path: tables on the way to it, and nothing elsewhere. -/
def leafView (value : Tree) (keys : List String) : View := fun path =>
  if path = keys then some (.whole value) else if path <+: keys then some .table else none

theorem view_alone {value : Tree} (keys : List String) (isWhole : value.part = .whole value) :
    (alone value keys).view = leafView value keys := by
  funext path
  induction keys generalizing path with
  | nil =>
      cases path with
      | nil => exact congrArg some isWhole
      | cons key path =>
          rw [alone, view_cons_of_notTable (by rw [isWhole]; rfl)]
          simp [leafView]
  | cons key keys ih =>
      cases path with
      | nil => simp [alone, leafView, view_nil, part]
      | cons key' path =>
          have here : child? (some (Tree.table none [(key, alone value keys)])) key' =
              if key' = key then some (alone value keys) else none := valueOf?_cons key' _ _
          rw [alone, view_cons, here]
          by_cases same : key' = key
          · rw [if_pos same, viewOf_some, ih]
            simp [leafView, same]
          · rw [if_neg same]
            simp [leafView, same, viewOf]

theorem regular_alone {value : Tree} (keys : List String) (isWhole : value.part.isTable = false)
    (small : ∀ key ∈ keys, Text.toLower key = key) : (alone value keys).Regular := by
  induction keys with
  | nil => exact regular_of_notTable isWhole
  | cons key keys ih =>
      intro path origin entries reached
      cases path with
      | nil =>
          obtain ⟨rfl, rfl⟩ := Tree.table.inj (Option.some.inj reached)
          exact ⟨List.pairwise_singleton _ _, by simpa using small key List.mem_cons_self⟩
      | cons key' path =>
          have here : (Tree.table none [(key, alone value keys)]).get? key' =
              if key' = key then some (alone value keys) else none := valueOf?_cons key' _ _
          rw [alone, at?, here] at reached
          by_cases same : key' = key
          · rw [if_pos same] at reached
            exact ih (fun key listed => small key (List.mem_cons_of_mem _ listed)) path origin
              entries reached
          · rw [if_neg same] at reached
            cases reached

theorem put_name (value : Tree) (key : String) :
    Path.put value [.name key] below =
      some (.table (tableParts below).1 (insertEntry (Text.toLower key)
        (overlay (child? below (Text.toLower key)) value) (tableParts below).2)) := rfl

theorem put_name_cons (value : Tree) (key : String) (step : Step) (steps : List Step) :
    Path.put value (.name key :: step :: steps) below =
      (Path.put value (step :: steps) (child? below (Text.toLower key))).map fun sub =>
        .table (tableParts below).1 (insertEntry (Text.toLower key) sub (tableParts below).2) := by
  rw [Path.put, Option.map_eq_bind]
  · rfl
  · nofun

theorem overlay_alone (value : Tree) (key : String) (keys : List String) :
    overlay below (alone value (key :: keys)) =
      .table (tableParts below).1 (insertEntry (Text.toLower key)
        (overlay (child? below (Text.toLower key)) (alone value keys)) (tableParts below).2) := by
  rw [alone, overlay, overlayEntries, overlayEntries, child?]

/-- A value put at a path of names is put over what there is, with its path around it. -/
theorem put_names (value : Tree) (key : String) (keys : List String) :
    Path.put value ((key :: keys).map .name) below =
      some (overlay below (alone value (key :: keys))) := by
  induction keys generalizing below key with
  | nil => rw [List.map_singleton, put_name, overlay_alone, alone]
  | cons next keys ih =>
      rw [overlay_alone, List.map_cons, List.map_cons, put_name_cons, ← List.map_cons, ih,
        Option.map_some]

theorem putAll_cons (tree : Tree) (entry : String × Tree) (entries : List (String × Tree)) :
    tree.putAll (entry :: entries) =
      (tree.putAt entry.1 entry.2).bind fun tree => tree.putAll entries := rfl

theorem overlay_cons {origin : Option Origin} (name : String) (value : Tree)
    (entries : List (String × Tree)) :
    overlay (some tree) (.table origin ((name, value) :: entries)) =
      overlay (some (overlay (some tree) (alone value [name]))) (.table origin entries) := by
  rw [overlay_alone, overlay, overlayEntries, alone]
  cases entries with
  | nil => rw [overlay, overlayEntries]; rfl
  | cons entry entries => rw [overlay]; rfl

/-- The entries of a document, of which each name is one step. -/
theorem putAll_document (entries : List (String × Tree))
    (plain : ∀ entry ∈ entries, Path.steps entry.1 = [.name entry.1]) :
    tree.putAll entries = some (overlay (some tree) (.table none entries)) := by
  induction entries generalizing tree with
  | nil => rw [overlay]; rfl
  | cons entry entries ih =>
      obtain ⟨name, value⟩ := entry
      have single : Path.steps name = [.name name] := plain (name, value) List.mem_cons_self
      have put : tree.putAt name value = some (overlay (some tree) (alone value [name])) := by
        rw [putAt, single]
        exact put_names value name []
      rw [putAll_cons, put, Option.bind_some, overlay_cons,
        ih fun entry listed => plain entry (List.mem_cons_of_mem _ listed)]

end Tree

end SyncPods.Layers
