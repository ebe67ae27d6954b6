import Mathlib.Tactic.MkIffOfInductiveProp
import SyncPods.Layers.Load
import SyncPods.Proofs.MergedTree
import SyncPods.Proofs.NamedPaths

/-!
# Settings in layers

Settings are read from one tree, which has at each path what the highest of three layers has that
has anything: the variables, the file of the environment and the base file. It takes that no path
leads to a table in one layer and to something else in another, and that of two variables none sets
what the other one is, or a part of it. Then the order of the variables plays no part.
-/

namespace SyncPods.Layers

/-! ## What is in a layer -/

/-- The values of the variables, by the paths that they set. -/
def variableEntries (vars : List (String × String)) : List (String × Tree) :=
  vars.filterMap fun (name, text) =>
    (variablePath? name).map fun path => (path, variableTree path text)

/-- What values at paths have at each path of names. -/
def viewOfEntries (entries : List (String × Tree)) : View := fun path =>
  entries.findSome? fun entry => Tree.leafView entry.2 (keysOf entry.1) path

/-- The tree of a file, which is one without entries where there is no file. -/
def documentOf : Option (String × String) → Except FileFault Tree
  | none => .ok .void
  | some (name, text) => (fileLayer name text).map (.table none)

/-- Of two paths none leads to a part of what the other one leads to. -/
def Apart (path path' : String) : Prop :=
  ¬keysOf path <+: keysOf path' ∧ ¬keysOf path' <+: keysOf path

/-- The names of a tree are plain wherever a path leads to. -/
def AllPlain (tree : Tree) : Prop :=
  ∀ path part, tree.view path = some part → ∀ key ∈ path, IsPlain key

/-- What it takes that layers can be put together: names that no layer understands in a way of its
own, variables that do not get in each other's way, and one kind of value at each path. -/
@[mk_iff]
structure Coherent (base file : Tree) (vars : List (String × String)) : Prop where
  basePlain : AllPlain base
  filePlain : AllPlain file
  named : ∀ entry ∈ variableEntries vars, ∀ key ∈ keysOf entry.1, IsName key
  apart : (variableEntries vars).Pairwise fun entry entry' => Apart entry.1 entry'.1
  baseUnderFile : base.view.Agree file.view
  baseUnderVariables : base.view.Agree (viewOfEntries (variableEntries vars))
  fileUnderVariables : file.view.Agree (viewOfEntries (variableEntries vars))

/-- What three layers have together. -/
def layeredView (base file : Tree) (vars : List (String × String)) : View :=
  (viewOfEntries (variableEntries vars)).upon (file.view.upon base.view)

/-- What loading makes of three layers. -/
structure LoadsAs (environment : Environment) (files : String → Option String)
    (vars : List (String × String)) (expected : View) (tree : Tree) : Prop where
  merged : tree.Merged
  view : tree.view = expected
  only : ∀ other : Tree, other.Merged → other.view = expected → other = tree
  loaded : ∀ vars', vars'.Perm vars → loadFor environment files vars' = settingsOf tree
  anyOrder : ∀ entries, entries.Perm (variableLayer vars) →
    (layeredTree files environment [] >>= fun below => putLayer below entries) = .ok tree

/-! ## Entries of variables -/

section Entries

variable {entries entries' : List (String × Tree)} {entry : String × Tree}

theorem Apart.symm {path path' : String} (apart : Apart path path') : Apart path' path :=
  ⟨apart.2, apart.1⟩

theorem insertEntry_perm {α : Type} {name : String} {entries : List (String × α)}
    (fresh : name ∉ entries.map (·.1)) (value : α) :
    (insertEntry name value entries).Perm ((name, value) :: entries) := by
  induction entries with
  | nil => exact List.Perm.refl _
  | cons first rest ih =>
      rw [List.map_cons, List.mem_cons, not_or] at fresh
      rw [insertEntry]
      split
      · exact List.Perm.refl _
      · rw [if_neg fresh.1]
        exact ((ih fresh.2).cons first).trans (List.Perm.swap _ _ _)

theorem foldl_insertEntry_perm {sofar : List (String × Tree)}
    (distinct : ((entries ++ sofar).map (·.1)).Nodup) :
    (entries.foldl (fun sofar entry => insertEntry entry.1 entry.2 sofar) sofar).Perm
      (entries ++ sofar) := by
  induction entries generalizing sofar with
  | nil => exact List.Perm.refl _
  | cons entry entries ih =>
      rw [List.cons_append, List.map_cons, List.nodup_cons, List.map_append] at distinct
      have fresh : entry.1 ∉ sofar.map (·.1) :=
        fun listed => distinct.1 (List.mem_append_right _ listed)
      have inserted := insertEntry_perm fresh entry.2
      have moved : (entries ++ insertEntry entry.1 entry.2 sofar).Perm
          (entry :: entries ++ sofar) :=
        (inserted.append_left entries).trans List.perm_middle
      have distinct' : ((entry :: entries ++ sofar).map (·.1)).Nodup := by
        rwa [List.cons_append, List.map_cons, List.nodup_cons, List.map_append]
      rw [List.foldl_cons]
      exact (ih ((moved.map (·.1)).nodup_iff.mpr distinct')).trans moved

theorem variableLayer_eq (vars : List (String × String)) :
    variableLayer vars = (variableEntries vars).foldl
      (fun sofar entry => insertEntry entry.1 entry.2 sofar) [] := by
  rw [variableLayer, variableEntries, List.foldl_filterMap]
  refine congrArg (fun f => List.foldl f [] vars) ?_
  funext entries var
  obtain ⟨name, text⟩ := var
  dsimp only
  cases variablePath? name <;> rfl

theorem nodup_of_apart (apart : entries.Pairwise fun entry entry' => Apart entry.1 entry'.1) :
    (entries.map (·.1)).Nodup := by
  refine List.pairwise_map.mpr (apart.imp ?_)
  intro entry entry' apart same
  rw [same] at apart
  exact apart.1 List.prefix_rfl

/-- The layer of variables that set different paths has just their values. -/
theorem variableLayer_perm {vars : List (String × String)}
    (apart : (variableEntries vars).Pairwise fun entry entry' => Apart entry.1 entry'.1) :
    (variableLayer vars).Perm (variableEntries vars) := by
  have distinct : ((variableEntries vars ++ []).map Prod.fst).Nodup := by
    rw [List.append_nil]
    exact nodup_of_apart apart
  have inserted := foldl_insertEntry_perm distinct
  rwa [List.append_nil, ← variableLayer_eq] at inserted

/-! ## What entries have at a path -/

theorem leafView_eq_of_apart {path path' : String} {value value' : Tree} {keys : List String}
    {p q : Part} (apart : Apart path path')
    (given : Tree.leafView value (keysOf path) keys = some p)
    (given' : Tree.leafView value' (keysOf path') keys = some q) : p = q := by
  have onWay {path : String} {value : Tree} {p : Part}
      (given : Tree.leafView value (keysOf path) keys = some p) :
      keys <+: keysOf path ∧ (keys = keysOf path ∨ p = .table) := by
    rw [Tree.leafView] at given
    split_ifs at given with same onWay
    · exact ⟨same ▸ List.prefix_rfl, Or.inl same⟩
    · exact ⟨onWay, Or.inr (Option.some.inj given).symm⟩
  obtain ⟨here, ends | rfl⟩ := onWay given
  · exact absurd (ends ▸ (onWay given').1) apart.1
  · obtain ⟨_, ends' | rfl⟩ := onWay given'
    · exact absurd (ends' ▸ here) apart.2
    · rfl

/-- With values that are apart, what one of them has at a path is what all of them have there. -/
theorem viewOfEntries_eq_some_iff {keys : List String} {p : Part}
    (apart : entries.Pairwise fun entry entry' => Apart entry.1 entry'.1) :
    viewOfEntries entries keys = some p ↔
      ∃ entry ∈ entries, Tree.leafView entry.2 (keysOf entry.1) keys = some p := by
  constructor
  · exact List.exists_of_findSome?_eq_some
  · intro found
    induction entries with
    | nil => simp at found
    | cons first rest ih =>
        obtain ⟨head, tail⟩ := List.pairwise_cons.mp apart
        obtain ⟨entry, listed, given⟩ := found
        rw [viewOfEntries, List.findSome?_cons]
        cases given' : Tree.leafView first.2 (keysOf first.1) keys with
        | some q =>
            rcases List.mem_cons.mp listed with rfl | later
            · rw [← given', given]
            · rw [leafView_eq_of_apart (head entry later) given' given]
        | none =>
            rcases List.mem_cons.mp listed with rfl | later
            · rw [given'] at given
              cases given
            · exact ih tail ⟨entry, later, given⟩

theorem viewOfEntries_of_perm (same : entries.Perm entries')
    (apart : entries.Pairwise fun entry entry' => Apart entry.1 entry'.1) :
    viewOfEntries entries = viewOfEntries entries' := by
  funext keys
  refine Option.ext fun p => ?_
  rw [viewOfEntries_eq_some_iff apart,
    viewOfEntries_eq_some_iff (apart.perm same fun apart => apart.symm)]
  simp only [same.mem_iff]

theorem viewOfEntries_append (entries entries' : List (String × Tree)) :
    viewOfEntries (entries ++ entries') =
      (viewOfEntries entries).upon (viewOfEntries entries') := by
  funext keys
  exact List.findSome?_append

theorem keysOf_eq_cons (path : String) : ∃ key keys, keysOf path = key :: keys := by
  refine List.exists_cons_of_ne_nil ?_
  rw [keysOf, Ne, List.map_eq_nil_iff]
  exact List.splitOn_ne_nil '.' path.toList

theorem putAt_entry (tree : Tree) (named : ∀ key ∈ keysOf entry.1, IsName key) :
    tree.putAt entry.1 entry.2 =
      some (Tree.overlay (some tree) (Tree.alone entry.2 (keysOf entry.1))) := by
  obtain ⟨key, keys, split⟩ := keysOf_eq_cons entry.1
  rw [Tree.putAt, Path.steps_eq_keysOf named, split, Tree.put_names]

/-- Values that are apart come over what there is, in whatever order they are put there. -/
theorem putAll_entries {tree : Tree} (merged : tree.Merged)
    (whole : ∀ entry ∈ entries, entry.2.part = .whole entry.2)
    (named : ∀ entry ∈ entries, ∀ key ∈ keysOf entry.1, IsName key)
    (apart : entries.Pairwise fun entry entry' => Apart entry.1 entry'.1)
    (agree : ∀ entry ∈ entries, View.Agree (Tree.leafView entry.2 (keysOf entry.1)) tree.view) :
    ∃ tree', tree.putAll entries = some tree' ∧ tree'.Merged ∧
      tree'.view = (viewOfEntries entries).upon tree.view := by
  induction entries generalizing tree with
  | nil => exact ⟨tree, rfl, merged, rfl⟩
  | cons entry entries ih =>
      have isWhole := whole entry List.mem_cons_self
      have isNamed := named entry List.mem_cons_self
      have agrees := agree entry List.mem_cons_self
      have small : ∀ key ∈ keysOf entry.1, Text.toLower key = key :=
        fun key listed => (isNamed key listed).isPlain.1
      have regular := Tree.regular_alone (keysOf entry.1) (by rw [isWhole]; rfl) small
      have seen := Tree.view_alone (keysOf entry.1) isWhole
      obtain ⟨head, tail⟩ := List.pairwise_cons.mp apart
      have put := putAt_entry tree isNamed
      have view : (Tree.overlay (some tree) (Tree.alone entry.2 (keysOf entry.1))).view =
          (Tree.leafView entry.2 (keysOf entry.1)).upon tree.view := by
        funext path
        rw [Tree.view_overlay regular (by rw [seen]; exact agrees.symm), seen]
        rfl
      have below : ∀ lower ∈ some tree, lower.Merged := fun lower same =>
        Option.some.inj same ▸ merged
      have merged' := Tree.merged_overlay below regular
      have later : ∀ entry' ∈ entries, View.Agree (Tree.leafView entry'.2 (keysOf entry'.1))
          (Tree.overlay (some tree) (Tree.alone entry.2 (keysOf entry.1))).view := by
        intro entry' listed
        rw [view]
        refine View.Agree.upon ?_ (agree entry' (List.mem_cons_of_mem _ listed))
        intro path p q given given'
        rw [leafView_eq_of_apart (head entry' listed) given' given]
      obtain ⟨tree', rest, mergedRest, viewRest⟩ := ih merged'
        (fun entry listed => whole entry (List.mem_cons_of_mem _ listed))
        (fun entry listed => named entry (List.mem_cons_of_mem _ listed)) tail later
      refine ⟨tree', ?_, mergedRest, ?_⟩
      · rw [Tree.putAll_cons, put, Option.bind_some, rest]
      · -- What was put first is apart from the rest, so it could have been put last as well.
        have moved := viewOfEntries_of_perm (List.perm_append_singleton entry entries).symm apart
        rw [viewRest, view, moved, viewOfEntries_append]
        funext path
        simp [View.upon, viewOfEntries, Option.or_assoc]

theorem part_variableTree (path text : String) :
    (variableTree path text).part = .whole (variableTree path text) := by
  rw [variableTree]
  split
  · split <;> rfl
  · rfl

theorem whole_variableEntries (vars : List (String × String)) :
    ∀ entry ∈ variableEntries vars, entry.2.part = .whole entry.2 := by
  intro entry listed
  obtain ⟨⟨name, text⟩, _, given⟩ := List.mem_filterMap.mp listed
  obtain ⟨path, _, rfl⟩ := Option.map_eq_some_iff.mp given
  exact part_variableTree path text

end Entries

/-! ## Trees of files -/

section Files

variable {origin : Origin} {sofar entries : List (String × Tree)} {tree : Tree}

theorem ascending_ofEntries {nodes : List (Yaml.Node × Yaml.Node)} (order : Ascending sofar)
    (read : Tree.ofEntries origin sofar nodes = .ok entries) : Ascending entries := by
  induction nodes generalizing sofar with
  | nil =>
      rw [Tree.ofEntries] at read
      exact Except.ok.inj read ▸ order
  | cons node nodes ih =>
      obtain ⟨key, node⟩ := node
      rw [Tree.ofEntries] at read
      cases name? : keyName? key with
      | none =>
          rw [name?] at read
          cases read
      | some name =>
          rw [name?] at read
          obtain ⟨value, _, rest⟩ := bind_eq_ok_iff.mp read
          exact ih (ascending_insertEntry name value order) rest

theorem mem_ofEntries {nodes : List (Yaml.Node × Yaml.Node)} {entry : String × Tree}
    (read : Tree.ofEntries origin sofar nodes = .ok entries) (listed : entry ∈ entries) :
    entry ∈ sofar ∨ ∃ node, Tree.ofNode origin node = .ok entry.2 := by
  induction nodes generalizing sofar with
  | nil =>
      rw [Tree.ofEntries] at read
      exact Or.inl (Except.ok.inj read ▸ listed)
  | cons node nodes ih =>
      obtain ⟨key, node⟩ := node
      rw [Tree.ofEntries] at read
      cases name? : keyName? key with
      | none =>
          rw [name?] at read
          cases read
      | some name =>
          rw [name?] at read
          obtain ⟨value, given, rest⟩ := bind_eq_ok_iff.mp read
          rcases ih rest with inserted | later
          · rcases mem_insertEntry inserted with rfl | earlier
            · exact Or.inr ⟨node, given⟩
            · exact Or.inl earlier
          · exact Or.inr later

theorem ofNode_eq_table {origin' : Option Origin} {node : Yaml.Node}
    (read : Tree.ofNode origin node = .ok (.table origin' entries)) :
    ∃ nodes, Tree.ofEntries origin [] nodes = .ok entries := by
  cases node with
  | map nodes =>
      rw [Tree.ofNode] at read
      obtain ⟨found, given, same⟩ := bind_eq_ok_iff.mp read
      cases same
      exact ⟨nodes, given⟩
  | real text =>
      rw [Tree.ofNode] at read
      split at read <;> cases read
  | list items =>
      rw [Tree.ofNode] at read
      obtain ⟨found, given, same⟩ := bind_eq_ok_iff.mp read
      cases same
  | _ => cases read

/-- The tables of a file are in the order of their names. -/
theorem ascending_ofNode {node : Yaml.Node} {origin' : Option Origin}
    (read : Tree.ofNode origin node = .ok tree) (path : List String)
    (reached : tree.at? path = some (.table origin' entries)) : Ascending entries := by
  induction path generalizing node tree with
  | nil =>
      obtain rfl := Option.some.inj reached
      obtain ⟨nodes, read⟩ := ofNode_eq_table read
      exact ascending_ofEntries List.Pairwise.nil read
  | cons key path ih =>
      obtain ⟨sub, found, inside⟩ := Option.bind_eq_some_iff.mp reached
      cases tree with
      | scalar origin value => cases found
      | list origin items => cases found
      | table origin entries =>
          obtain ⟨nodes, read⟩ := ofNode_eq_table read
          rcases mem_ofEntries read (mem_of_valueOf?_eq_some found) with none' | ⟨node, given⟩
          · cases none'
          · exact ih given inside

theorem fileLayer_eq_ok {name text : String} (read : fileLayer name text = .ok entries) :
    entries = [] ∨ ∃ root origin, Tree.ofNode (.file name) root = .ok (.table origin entries) := by
  rw [fileLayer] at read
  split at read
  · cases read
  · exact Or.inl (Except.ok.inj read).symm
  · obtain ⟨tree, given, same⟩ := bind_eq_ok_iff.mp read
    split at same
    · obtain rfl := Except.ok.inj same
      exact Or.inr ⟨_, _, given⟩
    · cases same

theorem documentOf_eq_ok {name text : String} (read : documentOf (some (name, text)) = .ok tree) :
    ∃ entries, fileLayer name text = .ok entries ∧ tree = .table none entries := by
  obtain ⟨entries, given, rfl⟩ := map_eq_ok_iff.mp read
  exact ⟨entries, given, rfl⟩

theorem ascending_documentOf {file : Option (String × String)} {origin : Option Origin}
    (read : documentOf file = .ok tree) (path : List String)
    (reached : tree.at? path = some (.table origin entries)) : Ascending entries := by
  match file, read with
  | none, read =>
      obtain rfl := Except.ok.inj read
      exact (Tree.merged_void path origin entries reached).2
  | some (name, text), read =>
      obtain ⟨rootEntries, given, rfl⟩ := documentOf_eq_ok read
      rcases fileLayer_eq_ok given with rfl | ⟨root, origin', given⟩
      · exact (Tree.merged_void path origin entries reached).2
      · -- The root of a document loses its origin, which plays no part in its order.
        cases path with
        | nil =>
            obtain ⟨_, rfl⟩ := Tree.table.inj (Option.some.inj reached)
            exact ascending_ofNode given [] rfl
        | cons key path => exact ascending_ofNode given (key :: path) reached

theorem Tree.view_append_entry {path : List String} {origin : Option Origin}
    {entry : String × Tree} (reached : tree.at? path = some (.table origin entries))
    (order : Ascending entries) (listed : entry ∈ entries) :
    tree.view (path ++ [entry.1]) = some entry.2.part := by
  have found : valueOf? entry.1 entries = some entry.2 := (mem_iff_of_ascending order).mp listed
  have inside : (Tree.table origin entries).at? [entry.1] = some entry.2 := by
    rw [Tree.at?]
    exact Option.bind_eq_some_iff.mpr ⟨entry.2, found, rfl⟩
  rw [Tree.view, Tree.at?_append, reached, Option.bind_some, inside, Option.map_some]

theorem plain_of_mem {origin : Option Origin} {entry : String × Tree} (plain : AllPlain tree)
    (path : List String)
    (reached : tree.at? path = some (.table origin entries)) (order : Ascending entries)
    (listed : entry ∈ entries) : IsPlain entry.1 := by
  have there := Tree.view_append_entry reached order listed
  exact plain _ _ there entry.1 (List.mem_append_right path List.mem_cons_self)

/-- A file's tree in which all names are plain can be put over others. -/
theorem regular_documentOf {file : Option (String × String)} (read : documentOf file = .ok tree)
    (plain : AllPlain tree) :
    tree.Regular := by
  intro path origin entries reached
  have order := ascending_documentOf read path reached
  exact ⟨order, fun entry listed => (plain_of_mem plain path reached order listed).1⟩

theorem putFile_eq {name text : String} {below : Tree}
    (read : documentOf (some (name, text)) = .ok tree)
    (plain : AllPlain tree) :
    putFile below name text = .ok (Tree.overlay (some below) tree) := by
  obtain ⟨entries, given, rfl⟩ := documentOf_eq_ok read
  have order : Ascending entries := ascending_documentOf read [] rfl
  have steps : ∀ entry ∈ entries, Path.steps entry.1 = [.name entry.1] := fun entry listed =>
    Path.steps_of_isPlain (plain_of_mem plain [] rfl order listed)
  rw [putFile, given]
  dsimp only
  rw [putLayer, Tree.putAll_document entries steps]

/-- The tree of the two files. -/
def filesTree (base file : Tree) : Tree :=
  Tree.overlay (some (Tree.overlay (some .void) base)) file

theorem layeredTree_eq {base file : Tree} {environment : Environment}
    {files : String → Option String} (vars : List (String × String))
    (there : (findFile files baseFile).isSome)
    (baseRead : documentOf (findFile files baseFile) = .ok base)
    (fileRead : documentOf (findFile files (environmentFile environment)) = .ok file)
    (basePlain : AllPlain base)
    (filePlain : AllPlain file) :
    layeredTree files environment vars =
      putLayer (filesTree base file) (variableLayer vars) := by
  obtain ⟨⟨name, text⟩, found⟩ := Option.isSome_iff_exists.mp there
  rw [found] at baseRead
  simp only [layeredTree, found, putFile_eq baseRead basePlain, ok_bind]
  cases found' : findFile files (environmentFile environment) with
  | none =>
      rw [found'] at fileRead
      obtain rfl := Except.ok.inj fileRead
      rfl
  | some other =>
      obtain ⟨name', text'⟩ := other
      rw [found'] at fileRead
      dsimp only
      rw [putFile_eq fileRead filePlain, ok_bind, filesTree]

theorem documentOf_isTable {file : Option (String × String)} (read : documentOf file = .ok tree) :
    tree.part = .table := by
  match file, read with
  | none, read => exact Except.ok.inj read ▸ rfl
  | some (name, text), read =>
      obtain ⟨entries, _, rfl⟩ := documentOf_eq_ok read
      rfl

theorem agree_void (isTable : tree.part = .table) : Tree.void.view.Agree tree.view := by
  intro path p q given given'
  cases path with
  | nil =>
      obtain rfl := Option.some.inj given
      obtain rfl := Option.some.inj given'
      rw [isTable]
      rfl
  | cons key path => cases given

/-- Nothing shows of the tree that all layers are put over. -/
theorem upon_void (tree : Tree) : tree.view.upon Tree.void.view = tree.view := by
  funext path
  cases path with
  | nil => rfl
  | cons key path => exact Option.or_none

theorem merged_some (merged : tree.Merged) : ∀ lower ∈ some tree, lower.Merged :=
  fun _ same => Option.some.inj same ▸ merged

theorem filesTree_spec {base file : Tree} (baseRegular : base.Regular) (fileRegular : file.Regular)
    (isTable : base.part = .table) (agree : base.view.Agree file.view) :
    (filesTree base file).Merged ∧ (filesTree base file).view = file.view.upon base.view := by
  have baseView : (Tree.overlay (some .void) base).view = base.view := by
    rw [← upon_void base]
    funext path
    exact Tree.view_overlay baseRegular (agree_void isTable)
  have baseMerged := Tree.merged_overlay (merged_some Tree.merged_void) baseRegular
  refine ⟨Tree.merged_overlay (merged_some baseMerged) fileRegular, ?_⟩
  funext path
  rw [filesTree, Tree.view_overlay fileRegular, Tree.viewOf_some, baseView]
  · rfl
  · rwa [Tree.viewOf_some, baseView]

end Files

/-! ## All layers -/

theorem findFile_eq_none {files : String → Option String} {name : String}
    (missing : ∀ name' ∈ fileNames name, files name' = none) : findFile files name = none := by
  rw [findFile, List.findSome?_eq_none_iff]
  intro name' listed
  rw [missing name' listed, Option.map_none]

/-- Files with one more. -/
def withFile (files : String → Option String) (name text : String) : String → Option String :=
  fun name' => if name' = name then some text else files name'

theorem findFile_withFile_base (files : String → Option String) (environment : Environment)
    (text : String) :
    findFile (withFile files (environmentFile environment) text) baseFile =
      findFile files baseFile := by
  have other : ∀ name ∈ fileNames baseFile, name ≠ environmentFile environment := by
    cases environment <;> decide
  have same : ∀ name ∈ fileNames baseFile,
      withFile files (environmentFile environment) text name = files name :=
    fun name listed => if_neg (other name listed)
  simp only [findFile, fileNames, List.findSome?_cons, List.findSome?_nil]
  rw [same _ (by simp [fileNames]), same _ (by simp [fileNames]), same _ (by simp [fileNames])]

theorem leafView_agree {entries : List (String × Tree)} {entry : String × Tree} {v : View}
    (apart : entries.Pairwise fun entry entry' => Apart entry.1 entry'.1)
    (agree : (viewOfEntries entries).Agree v) (listed : entry ∈ entries) :
    View.Agree (Tree.leafView entry.2 (keysOf entry.1)) v := by
  intro path p q given given'
  exact agree path p q ((viewOfEntries_eq_some_iff apart).mpr ⟨entry, listed, given⟩) given'

section Load

variable {environment : Environment} {files : String → Option String}
  {vars : List (String × String)} {base file : Tree}

theorem exists_layered (baseRead : documentOf (findFile files baseFile) = .ok base)
    (fileRead : documentOf (findFile files (environmentFile environment)) = .ok file)
    (coherent : Coherent base file vars) {entries : List (String × Tree)}
    (order : entries.Perm (variableEntries vars)) :
    ∃ tree, putLayer (filesTree base file) entries = .ok tree ∧ tree.Merged ∧
      tree.view = layeredView base file vars := by
  have baseRegular := regular_documentOf baseRead coherent.basePlain
  have fileRegular := regular_documentOf fileRead coherent.filePlain
  obtain ⟨merged, view⟩ := filesTree_spec baseRegular fileRegular (documentOf_isTable baseRead)
    coherent.baseUnderFile
  have apart := coherent.apart.perm order.symm fun apart => apart.symm
  have sameView := viewOfEntries_of_perm order apart
  have agree : ∀ entry ∈ entries,
      View.Agree (Tree.leafView entry.2 (keysOf entry.1)) (filesTree base file).view := by
    intro entry listed
    rw [view]
    refine leafView_agree apart ?_ listed
    rw [sameView]
    exact coherent.fileUnderVariables.symm.upon coherent.baseUnderVariables.symm
  obtain ⟨tree, put, mergedTree, viewTree⟩ := putAll_entries merged
    (fun entry listed => whole_variableEntries vars entry (order.mem_iff.mp listed))
    (fun entry listed => coherent.named entry (order.mem_iff.mp listed)) apart agree
  refine ⟨tree, ?_, mergedTree, ?_⟩
  · rw [putLayer, put]
  · rw [viewTree, view, sameView, layeredView]

/-- Settings are read from the one tree that has at each path what the highest layer has that has
anything there, in whatever order the variables come. -/
theorem loadsAs_of_coherent (there : (findFile files baseFile).isSome)
    (baseRead : documentOf (findFile files baseFile) = .ok base)
    (fileRead : documentOf (findFile files (environmentFile environment)) = .ok file)
    (coherent : Coherent base file vars) :
    ∃ tree, LoadsAs environment files vars (layeredView base file vars) tree := by
  obtain ⟨tree, put, merged, view⟩ := exists_layered baseRead fileRead coherent
    (List.Perm.refl _)
  have only : ∀ other : Tree, other.Merged → other.view = layeredView base file vars →
      other = tree := by
    intro other merged' view'
    exact Tree.eq_of_view_eq merged' merged (view'.trans view.symm)
  have anyEntries : ∀ entries, entries.Perm (variableEntries vars) →
      putLayer (filesTree base file) entries = .ok tree := by
    intro entries order
    obtain ⟨tree', put', merged', view'⟩ := exists_layered baseRead fileRead coherent order
    rw [put', only tree' merged' view']
  have layered (vars' : List (String × String)) := layeredTree_eq vars' there baseRead
    fileRead coherent.basePlain coherent.filePlain
  refine ⟨tree, merged, view, only, ?_, ?_⟩
  · intro vars' order
    have sameEntries : (variableEntries vars').Perm (variableEntries vars) := order.filterMap _
    have apart := coherent.apart.perm sameEntries.symm fun apart => apart.symm
    rw [loadFor, layered vars', anyEntries _ ((variableLayer_perm apart).trans sameEntries), ok_bind]
  · intro entries order
    have filesOnly : putLayer (filesTree base file) (variableLayer []) =
        .ok (filesTree base file) := rfl
    rw [layered [], filesOnly, ok_bind,
      anyEntries entries (order.trans (variableLayer_perm coherent.apart))]

end Load

instance (tree : Tree) : Decidable (AllPlain tree) :=
  decidable_of_iff (∀ path ∈ tree.paths, ∀ _part ∈ tree.view path, ∀ key ∈ path, IsPlain key)
    ⟨fun plain path part there => plain path (Tree.mem_paths there) part there,
      fun plain path _ part there => plain path part there⟩

instance (path path' : String) : Decidable (Apart path path') := instDecidableAnd

instance (base file : Tree) (vars : List (String × String)) : Decidable (Coherent base file vars) :=
  haveI := Tree.decidableAgree base (viewOfEntries (variableEntries vars))
  haveI := Tree.decidableAgree file (viewOfEntries (variableEntries vars))
  decidable_of_iff' _ (coherent_iff base file vars)

namespace Sample

def stagingFiles : String → Option String
  | "base.yaml" => some "data_plane: eu\nkubernetes:\n  namespace: jobs\n"
  | "staging.yaml" => some "kubernetes:\n  namespace: staging\n"
  | _ => none

def stagingVariables : List (String × String) := [("APP_KUBERNETES__INIT_IMAGE", "i")]

/-- A base file by a name that only the search for files makes up. -/
def strayFiles : String → Option String
  | "base.yaml.yaml" => some "data_plane: l\nkubernetes:\n  namespace: n\n  init_image: i\n"
  | _ => none

end Sample

end SyncPods.Layers
