import SyncPods.Proofs.TableFields
import SyncPods.Proofs.TextParts
import SyncPods.Proofs.VariableOrder

/-!
# What a variable sets

A variable of one field is put over what settings load from otherwise, and settings load with it as
well: its text arrives unless it spells a truth value or a number, of which the usual spelling
arrives (`arrival`). So say `text_arrives` and `secrets_arrive`, and `overrides_arrive` says both.
-/

namespace SyncPods.Layers

/-! ## Values of variables -/

/-- What is left of a text that a variable holds: truth values and numbers are written anew. -/
def arrival (text : String) : String :=
  if Text.toLower text = "true" then "true"
  else if Text.toLower text = "false" then "false"
  else
    match Whole.ofText? text, Double.ofText? text with
    | some n, _ => toString n
    | none, some x => x.plain
    | none, none => text

/-- A text that is neither a truth value nor a number. -/
structure IsWording (text : String) : Prop where
  noTrue : Text.toLower text ≠ "true"
  noFalse : Text.toLower text ≠ "false"
  noWhole : Whole.ofText? text = none
  noDouble : Double.ofText? text = none

section Values

variable {text path : String} {trail : List Link}

theorem variableScalar_of_isWording (isWording : IsWording text) :
    variableScalar text = .text text := by
  simp [variableScalar, isWording.noTrue, isWording.noFalse, isWording.noWhole,
    isWording.noDouble]

theorem arrival_of_isWording (isWording : IsWording text) : arrival text = text := by
  simp [arrival, isWording.noTrue, isWording.noFalse, isWording.noWhole, isWording.noDouble]

theorem isWording_of_variableScalar {other : String} (isText : variableScalar text = .text other) :
    IsWording text := by
  rw [variableScalar] at isText
  split at isText
  · cases isText
  · next noTrue =>
      split at isText
      · cases isText
      · next noFalse =>
          cases whole : Whole.ofText? text with
          | some n => rw [whole] at isText; cases isText
          | none =>
              cases double : Double.ofText? text with
              | some x => rw [whole, double] at isText; cases isText
              | none => exact ⟨noTrue, noFalse, whole, double⟩

theorem text?_variableScalar (text : String) :
    (variableScalar text).text? = some (arrival text) := by
  rw [variableScalar, arrival]
  split
  · rfl
  · split
    · rfl
    · cases Whole.ofText? text with
      | some n => rfl
      | none => cases Double.ofText? text <;> rfl

theorem variableTree_of_ne (other : path ≠ listPath) (text : String) :
    variableTree path text = .scalar (some .environment) (variableScalar text) := by
  rw [variableTree]
  cases variableScalar text <;> simp [other]

theorem string_scalar {origin : Option Origin} {scalar : Scalar} {v : String}
    (stands : scalar.text? = some v) :
    Source.string (Located.mk trail (.scalar origin scalar)) = .ok v := by
  show Located.scalarAs "a string" Scalar.text? (Located.mk trail (.scalar origin scalar)) = .ok v
  rw [Located.scalarAs]
  dsimp only
  rw [stands]

theorem optionalString_scalar {origin : Option Origin} {scalar : Scalar} {v : String}
    (stands : scalar.text? = some v) :
    Source.optionalString (Located.mk trail (.scalar origin scalar)) = .ok (some v) := by
  have reads : Source.string (Located.mk trail (.scalar origin scalar)) = .ok v :=
    string_scalar stands
  show Located.orNil Source.string (Located.mk trail (.scalar origin scalar)) = .ok (some v)
  cases scalar with
  | nil => cases stands
  | _ =>
      rw [Located.orNil]
      dsimp only
      rw [reads]
      rfl

theorem mapM_texts {origin : Option Origin} (node : Located) (texts : List String) (start : Nat) :
    ((texts.map fun text => Tree.scalar origin (.text text)).zipIdx start).mapM
      (fun entry : Tree × Nat => Source.string (node.item entry.2 entry.1)) = .ok texts := by
  induction texts generalizing start with
  | nil => rfl
  | cons text texts ih =>
      have first : Source.string (node.item start (.scalar origin (.text text))) = .ok text :=
        string_scalar rfl
      rw [List.map_cons, List.zipIdx_cons, List.mapM_cons, first, ih]
      rfl

/-- What can stand for a text can stand at any field but the list of names. -/
theorem ClusterField.exists_reads {field : ClusterField} (isText : field ≠ .imagePullSecrets)
    {origin : Option Origin} {scalar : Scalar} {v : String} (stands : scalar.text? = some v)
    (c : ClusterSettings) :
    ∃ c₀, ∀ trail, field.Reads (Located.mk trail (.scalar origin scalar)) c₀ := by
  cases field with
  | namespaceName => exact ⟨{ c with namespaceName := v }, fun _ => string_scalar stands⟩
  | serviceAccount => exact ⟨{ c with serviceAccount := v }, fun _ => optionalString_scalar stands⟩
  | imagePullSecrets => exact absurd rfl isText
  | imagePullPolicy => exact ⟨{ c with imagePullPolicy := v }, fun _ => optionalString_scalar stands⟩
  | initImage => exact ⟨{ c with initImage := v }, fun _ => string_scalar stands⟩
  | connectorSecret => exact ⟨{ c with connectorSecret := v }, fun _ => optionalString_scalar stands⟩

theorem ClusterField.text?_of_reads {field : ClusterField} (isText : field ≠ .imagePullSecrets)
    {origin : Option Origin} {scalar : Scalar} {v : String} {c : ClusterSettings}
    (stands : scalar.text? = some v)
    (reads : field.Reads (Located.mk trail (.scalar origin scalar)) c) :
    field.text? c = some v := by
  have string : Source.string (Located.mk trail (.scalar origin scalar)) = .ok v :=
    string_scalar stands
  have optional : Source.optionalString (Located.mk trail (.scalar origin scalar)) =
      .ok (some v) := optionalString_scalar stands
  cases field with
  | namespaceName => exact congrArg some (Except.ok.inj (reads.symm.trans string))
  | serviceAccount => exact Except.ok.inj (reads.symm.trans optional)
  | imagePullSecrets => exact absurd rfl isText
  | imagePullPolicy => exact Except.ok.inj (reads.symm.trans optional)
  | initImage => exact congrArg some (Except.ok.inj (reads.symm.trans string))
  | connectorSecret => exact Except.ok.inj (reads.symm.trans optional)

/-- A list of texts is read as those texts. -/
theorem list_texts {origin origin' : Option Origin} (texts : List String) :
    Source.list Source.string (Located.mk trail
      (.list origin (texts.map fun text => .scalar origin' (.text text)))) = .ok texts :=
  mapM_texts _ texts 0

/-- What is no wording is a single value even where a list is wanted. -/
theorem variableTree_of_not_isWording (noWording : ¬IsWording text) :
    variableTree path text = .scalar (some .environment) (variableScalar text) := by
  rw [variableTree]
  cases scalar : variableScalar text with
  | text other => exact absurd (isWording_of_variableScalar scalar) noWording
  | _ => rfl

/-- A list of names is set as the parts of the text between its commas. -/
theorem variableTree_listPath (isWording : IsWording text) :
    variableTree listPath text = .list (some .environment)
      (((text.toList.splitOn ',').map String.ofList).map fun part =>
        .scalar (some .environment) (.text part)) := by
  rw [variableTree, variableScalar_of_isWording isWording]
  dsimp only
  rw [if_pos rfl, splitOn_comma]

end Values

/-! ## Settings with another value -/

section Sections

variable {origin : Option Origin} {entries : List (String × Tree)} {value : Tree} {x : Settings}

theorem SettingsPart.isName_key (part : SettingsPart) :
    IsName part.key ∧ loneUnderlines part.key.toList = true := by
  cases part <;> decide

theorem ClusterField.isName_key (field : ClusterField) :
    IsName field.key ∧ loneUnderlines field.key.toList = true := by
  cases field <;> decide

theorem ConventionField.isName_key (field : ConventionField) :
    IsName field.key ∧ loneUnderlines field.key.toList = true := by
  cases field <;> decide

theorem overlay_single (below : Option Tree) {key : String} (isName : IsName key)
    (isWhole : value.part.isTable = false) :
    Tree.overlay below (Tree.alone value [key]) =
      .table (Tree.tableParts below).1 (insertEntry key value (Tree.tableParts below).2) := by
  rw [Tree.overlay_alone, isName.isPlain.1, Tree.alone, Tree.overlay_of_notTable isWhole]

/-- With something else put under one part, settings are read with what the part is read as. -/
theorem settings_put (part : SettingsPart) (keys : List String)
    (legible : ∃ x₀, part.Reads (inTable [] part.key
      (Tree.overlay (valueOf? part.key entries) (Tree.alone value keys))) x₀)
    (read : Settings.read (Located.mk [] (.table origin entries)) = .ok x) :
    ∃ x', Settings.read (Located.mk [] (Tree.overlay (some (.table origin entries))
        (Tree.alone value (part.key :: keys)))) = .ok x' ∧
      part.Reads (inTable [] part.key
        (Tree.overlay (valueOf? part.key entries) (Tree.alone value keys))) x' := by
  rw [Tree.overlay_alone, part.isName_key.1.isPlain.1]
  exact settings_insertEntry origin part legible read

theorem dataPlane_put {v : String} (isWhole : value.part.isTable = false)
    (holds : ∀ trail, Source.string (Located.mk trail value) = .ok v)
    (read : Settings.read (Located.mk [] (.table origin entries)) = .ok x) :
    ∃ x', Settings.read (Located.mk [] (Tree.overlay (some (.table origin entries))
      (Tree.alone value ["data_plane"]))) = .ok x' ∧ x'.dataPlane = v := by
  have whole : Tree.overlay (valueOf? SettingsPart.dataPlane.key entries) (Tree.alone value []) =
      value := Tree.overlay_of_notTable isWhole
  have legible : SettingsPart.dataPlane.Reads (inTable [] SettingsPart.dataPlane.key value)
      { x with dataPlane := v } := holds _
  obtain ⟨x', read', reads⟩ := settings_put .dataPlane [] ⟨_, whole.symm ▸ legible⟩ read
  rw [whole] at reads
  exact ⟨x', read', Except.ok.inj (reads.symm.trans (holds _))⟩

theorem cluster_put (field : ClusterField) (isWhole : value.part.isTable = false)
    (legible : ∃ c₀, ∀ trail, field.Reads (Located.mk trail value) c₀)
    (noList : ∀ origin items, valueOf? "kubernetes" entries ≠ some (.list origin items))
    (read : Settings.read (Located.mk [] (.table origin entries)) = .ok x) :
    ∃ x', Settings.read (Located.mk [] (Tree.overlay (some (.table origin entries))
        (Tree.alone value ["kubernetes", field.key]))) = .ok x' ∧
      ∃ trail, field.Reads (Located.mk trail value) x'.cluster := by
  obtain ⟨⟨tree, there, readCluster⟩, _⟩ := sections_of_read read
  cases tree with
  | scalar origin' scalar => cases readCluster
  | list origin' items => exact absurd there (noList origin' items)
  | table origin' entries' =>
      obtain ⟨c₀, legible⟩ := legible
      obtain ⟨c, readCluster', reads⟩ :=
        cluster_insertEntry origin' field ⟨c₀, legible _⟩ readCluster
      have under : Tree.overlay (valueOf? SettingsPart.cluster.key entries)
          (Tree.alone value [field.key]) = .table origin' (insertEntry field.key value entries') := by
        rw [SettingsPart.key, there, overlay_single _ field.isName_key.1 isWhole]
        rfl
      have legible' : SettingsPart.cluster.Reads (inTable [] SettingsPart.cluster.key
          (.table origin' (insertEntry field.key value entries'))) { x with cluster := c } :=
        readCluster'
      obtain ⟨x', read', readsPart⟩ :=
        settings_put .cluster [field.key] ⟨_, under.symm ▸ legible'⟩ read
      rw [under] at readsPart
      have same : c = x'.cluster := Except.ok.inj (readCluster'.symm.trans readsPart)
      exact ⟨x', read', _, same ▸ reads⟩

/-- Conventions may be missing, or be replaced as a whole, since all of them have defaults. -/
theorem convention_put (field : ConventionField) {v : String} (isWhole : value.part.isTable = false)
    (holds : ∀ trail, Source.string (Located.mk trail value) = .ok v)
    (read : Settings.read (Located.mk [] (.table origin entries)) = .ok x) :
    ∃ x', Settings.read (Located.mk [] (Tree.overlay (some (.table origin entries))
      (Tree.alone value ["scripts", field.key]))) = .ok x' ∧ field.text x'.conventions = v := by
  obtain ⟨_, readConventions⟩ := sections_of_read read
  obtain ⟨origin', c, readBelow⟩ : ∃ origin' c, Conventions.read (Located.mk [.name "scripts"]
      (.table origin' (Tree.tableParts (valueOf? "scripts" entries)).2)) = .ok c := by
    cases found : valueOf? "scripts" entries with
    | none => exact ⟨none, Conventions.builtIn, rfl⟩
    | some tree =>
        cases tree with
        | scalar origin' scalar => exact ⟨none, Conventions.builtIn, rfl⟩
        | list origin' items => exact ⟨none, Conventions.builtIn, rfl⟩
        | table origin' entries' => exact ⟨origin', _, readConventions _ found⟩
  obtain ⟨c', readBelow', reads⟩ := conventions_insertEntry
    (Tree.tableParts (valueOf? "scripts" entries)).1 field (holds _) readBelow
  have under : Tree.overlay (valueOf? SettingsPart.conventions.key entries)
      (Tree.alone value [field.key]) = .table (Tree.tableParts (valueOf? "scripts" entries)).1
        (insertEntry field.key value (Tree.tableParts (valueOf? "scripts" entries)).2) :=
    overlay_single _ field.isName_key.1 isWhole
  have legible : SettingsPart.conventions.Reads (inTable [] SettingsPart.conventions.key
      (.table (Tree.tableParts (valueOf? "scripts" entries)).1
        (insertEntry field.key value (Tree.tableParts (valueOf? "scripts" entries)).2)))
      { x with conventions := c' } := readBelow'
  obtain ⟨x', read', readsPart⟩ :=
    settings_put .conventions [field.key] ⟨_, under.symm ▸ legible⟩ read
  rw [under] at readsPart
  have same : c' = x'.conventions := Except.ok.inj (readBelow'.symm.trans readsPart)
  exact ⟨x', read', same ▸ reads⟩

end Sections

/-! ## Fields by their variables -/

/-- A field of the settings that one variable sets. -/
inductive SettingField where
  | dataPlane
  | cluster (field : ClusterField)
  | convention (field : ConventionField)

namespace SettingField

/-- The list of names, which is the only field here that is no text. -/
def secrets : SettingField := cluster .imagePullSecrets

def keys : SettingField → List String
  | dataPlane => ["data_plane"]
  | cluster field => ["kubernetes", field.key]
  | convention field => ["scripts", field.key]

def path (field : SettingField) : String := ".".intercalate field.keys

/-- The name of the field's variable, such as `APP_KUBERNETES__NAMESPACE`. -/
def variableName (field : SettingField) : String := variableOf field.keys

/-- The text at the field; none if there is none, or a list. -/
def text? (x : Settings) : SettingField → Option String
  | dataPlane => some x.dataPlane
  | cluster field => field.text? x.cluster
  | convention field => some (field.text x.conventions)

theorem keys_ne_nil (field : SettingField) : field.keys ≠ [] := by
  cases field <;> exact List.cons_ne_nil _ _

theorem isName_of_mem_keys (field : SettingField) :
    ∀ key ∈ field.keys, IsName key ∧ loneUnderlines key.toList = true := by
  cases field with
  | dataPlane => exact List.forall_mem_singleton.mpr (SettingsPart.isName_key .dataPlane)
  | cluster field =>
      exact List.forall_mem_cons.mpr
        ⟨SettingsPart.isName_key .cluster, List.forall_mem_singleton.mpr field.isName_key⟩
  | convention field =>
      exact List.forall_mem_cons.mpr
        ⟨SettingsPart.isName_key .conventions, List.forall_mem_singleton.mpr field.isName_key⟩

theorem variablePath?_variableName (field : SettingField) :
    variablePath? field.variableName = some field.path :=
  variablePath?_variableOf (fun key listed => (field.isName_of_mem_keys key listed).1)
    fun key listed => (field.isName_of_mem_keys key listed).2

theorem steps_path (field : SettingField) : Path.steps field.path = field.keys.map .name :=
  Path.steps_intercalate field.keys_ne_nil fun key listed => (field.isName_of_mem_keys key listed).1

theorem path_secrets : secrets.path = listPath := by decide

theorem path_ne_listPath {field : SettingField} (isText : field ≠ secrets) :
    field.path ≠ listPath := by
  intro same
  have steps : field.keys.map Step.name = secrets.keys.map Step.name := by
    rw [← steps_path, ← steps_path, same, path_secrets]
  have keys : field.keys = secrets.keys :=
    List.map_injective_iff.mpr (fun _ _ => Step.name.inj) steps
  cases field with
  | dataPlane => simp [SettingField.keys, secrets] at keys
  | cluster field => cases field <;> simp_all [SettingField.keys, secrets, ClusterField.key]
  | convention field => simp [SettingField.keys, secrets] at keys

end SettingField

/-! ## Loading with a variable -/

section Root

variable {tree tree' value : Tree}

theorem exists_steps_eq (path : String) : ∃ name steps, Path.steps path = .name name :: steps := by
  rw [Path.steps]
  cases parsed : Path.ofText? path with
  | none => exact ⟨path, [], rfl⟩
  | some steps =>
      rw [Path.ofText?] at parsed
      dsimp only at parsed
      split at parsed
      · cases parsed
      · obtain ⟨further, _, rfl⟩ := Option.map_eq_some_iff.mp parsed
        exact ⟨_, further, rfl⟩

theorem isTable_putAt {path : String} (put : tree.putAt path value = some tree') :
    tree'.part.isTable = true := by
  obtain ⟨name, steps, leads⟩ := exists_steps_eq path
  rw [Tree.putAt, leads, Tree.put_name_eq] at put
  obtain ⟨_, _, rfl⟩ := Option.map_eq_some_iff.mp put
  rfl

theorem isTable_putAll {entries : List (String × Tree)} (isTable : tree.part.isTable = true)
    (put : tree.putAll entries = some tree') : tree'.part.isTable = true := by
  induction entries generalizing tree with
  | nil =>
      cases put
      exact isTable
  | cons entry entries ih =>
      rw [Tree.putAll_cons] at put
      obtain ⟨between, first, others⟩ := Option.bind_eq_some_iff.mp put
      exact ih (isTable_putAt first) others

theorem isTable_putLayer {entries : List (String × Tree)} (isTable : tree.part.isTable = true)
    (put : putLayer tree entries = .ok tree') : tree'.part.isTable = true := by
  rw [putLayer] at put
  cases all : tree.putAll entries with
  | none => rw [all] at put; cases put
  | some tree'' =>
      rw [all] at put
      cases put
      exact isTable_putAll isTable all

theorem isTable_putFile {name text : String} (isTable : tree.part.isTable = true)
    (put : putFile tree name text = .ok tree') : tree'.part.isTable = true := by
  rw [putFile] at put
  cases layer : fileLayer name text with
  | error fault => rw [layer] at put; cases put
  | ok entries =>
      rw [layer] at put
      exact isTable_putLayer isTable put

/-- Layers only ever add to a table. -/
theorem isTable_layeredTree {files : String → Option String} {environment : Environment}
    {vars : List (String × String)} (loaded : layeredTree files environment vars = .ok tree) :
    tree.part.isTable = true := by
  rw [layeredTree] at loaded
  cases found : findFile files baseFile with
  | none => rw [found] at loaded; cases loaded
  | some base =>
      rw [found] at loaded
      obtain ⟨fromBase, baseRead, loaded⟩ := bind_eq_ok_iff.mp loaded
      have isTable := isTable_putFile rfl baseRead
      cases found : findFile files (environmentFile environment) with
      | none => rw [found] at loaded; exact isTable_putLayer isTable loaded
      | some file =>
          rw [found] at loaded
          obtain ⟨fromFile, fileRead, loaded⟩ := bind_eq_ok_iff.mp loaded
          exact isTable_putLayer (isTable_putFile isTable fileRead) loaded

end Root

theorem settingsOf_eq_ok_iff {tree : Tree} {x : Settings} :
    settingsOf tree = .ok x ↔ Settings.read (Located.mk [] tree) = .ok x := by
  rw [settingsOf]
  cases Settings.read (Located.mk [] tree) <;> simp [Except.mapError]

/-- Settings load with another text in the place of the variable's own; or without the variable, if
it does not put a name where the settings of the cluster are written as a list. -/
inductive OtherwiseLoads (environment : Environment) (files : String → Option String)
    (before after : List (String × String)) (field : SettingField) : Prop where
  | withAnother (text : String)
      (loads : (loadFor environment files
        (before ++ (field.variableName, text) :: after)).isOk = true)
  | without (loads : (loadFor environment files (before ++ after)).isOk = true)
      (noList : ∀ key, field = .cluster key → ∀ tree,
        layeredTree files environment (before ++ after) = .ok tree →
          ∀ origin items, tree.get? "kubernetes" ≠ some (.list origin items))

theorem exists_eq_ok {ε α : Type} {result : Except ε α} (isOk : result.isOk = true) :
    ∃ x, result = .ok x := by
  cases result with
  | error e => cases isOk
  | ok x => exact ⟨x, rfl⟩

section Loading

variable {environment : Environment} {files : String → Option String}
  {before after : List (String × String)} {field : SettingField}

theorem layeredTree_field (files : String → Option String) (environment : Environment)
    (leave : AllLeave field.keys (before ++ after)) (text : String) :
    layeredTree files environment (before ++ (field.variableName, text) :: after) =
      (layeredTree files environment (before ++ after)).map fun tree =>
        Tree.overlay (some tree) (Tree.alone (variableTree field.path text) field.keys) :=
  layeredTree_variable files environment field.variablePath?_variableName field.keys_ne_nil
    field.steps_path leave

theorem variableTree_notTable (path text : String) :
    (variableTree path text).part.isTable = false := by
  rw [part_variableTree]
  rfl

/-- What a variable makes is a table, in which only tables lead to its value. -/
theorem exists_overlay_eq_table (field : SettingField) (below : Option Tree) (value : Tree) :
    ∃ origin entries,
      Tree.overlay below (Tree.alone value field.keys) = .table origin entries ∧
      ∀ key, field = .cluster key →
        ∀ origin items, valueOf? "kubernetes" entries ≠ some (.list origin items) := by
  cases field with
  | dataPlane => exact ⟨_, _, Tree.overlay_alone value _ _, nofun⟩
  | convention key => exact ⟨_, _, Tree.overlay_alone value _ _, nofun⟩
  | cluster key =>
      refine ⟨_, _, Tree.overlay_alone value "kubernetes" [key.key], ?_⟩
      have small : Text.toLower "kubernetes" = "kubernetes" :=
        (SettingsPart.isName_key .cluster).1.isPlain.1
      rintro _ - origin items isList
      rw [small, valueOf?_insertEntry, if_pos rfl, Tree.overlay_alone] at isList
      cases isList

/-- What the variable is put over: settings can be read from it, and it has no list in its way. -/
theorem exists_below (leave : AllLeave field.keys (before ++ after))
    (otherwise : OtherwiseLoads environment files before after field) :
    ∃ origin entries x, Settings.read (Located.mk [] (.table origin entries)) = .ok x ∧
      (∀ key, field = .cluster key →
        ∀ origin items, valueOf? "kubernetes" entries ≠ some (.list origin items)) ∧
      ∀ text, layeredTree files environment (before ++ (field.variableName, text) :: after) =
        .ok (Tree.overlay (some (.table origin entries))
          (Tree.alone (variableTree field.path text) field.keys)) := by
  have trees := layeredTree_field files environment leave
  cases loaded : layeredTree files environment (before ++ after) with
  | error failure =>
      -- Without a tree for the others nothing would have been loaded.
      simp only [loaded] at trees
      cases otherwise with
      | withAnother text loads => rw [loadFor, trees] at loads; cases loads
      | without loads noList => rw [loadFor, loaded] at loads; cases loads
  | ok tree =>
      simp only [loaded] at trees
      cases otherwise with
      | withAnother text loads =>
          obtain ⟨x, loads⟩ := exists_eq_ok loads
          -- A text takes the place of another one, so what loads with that can be below this.
          rw [loadFor, trees] at loads
          have read := settingsOf_eq_ok_iff.mp loads
          obtain ⟨origin, entries, isTable, noList⟩ :=
            exists_overlay_eq_table field (some tree) (variableTree field.path text)
          refine ⟨origin, entries, x, isTable ▸ read, noList, fun text' => ?_⟩
          rw [trees, ← isTable, Tree.overlay_alone_again (variableTree_notTable _ text')]
          rfl
      | without loads noList =>
          obtain ⟨x, loads⟩ := exists_eq_ok loads
          rw [loadFor, loaded] at loads
          have read := settingsOf_eq_ok_iff.mp loads
          cases tree with
          | table origin entries =>
              exact ⟨origin, entries, x, read, fun key isKey => noList key isKey _ loaded, trees⟩
          | _ => cases isTable_layeredTree loaded

/-- A text for any field but the list of names is read as the text that is left of it. -/
theorem read_put_text {origin : Option Origin} {entries : List (String × Tree)} {x : Settings}
    (isText : field ≠ SettingField.secrets)
    (noList : ∀ key, field = .cluster key →
      ∀ origin items, valueOf? "kubernetes" entries ≠ some (.list origin items))
    (read : Settings.read (Located.mk [] (.table origin entries)) = .ok x) (text : String) :
    ∃ x', Settings.read (Located.mk [] (Tree.overlay (some (.table origin entries))
        (Tree.alone (variableTree field.path text) field.keys))) = .ok x' ∧
      field.text? x' = some (arrival text) := by
  have stands := text?_variableScalar text
  rw [variableTree_of_ne (SettingField.path_ne_listPath isText)]
  cases field with
  | dataPlane =>
      obtain ⟨x', read', reads⟩ := dataPlane_put rfl (fun _ => string_scalar stands) read
      exact ⟨x', read', congrArg some reads⟩
  | convention key =>
      obtain ⟨x', read', reads⟩ := convention_put key rfl (fun _ => string_scalar stands) read
      exact ⟨x', read', congrArg some reads⟩
  | cluster key =>
      have isText : key ≠ .imagePullSecrets := fun same => isText (congrArg _ same)
      obtain ⟨x', read', _, reads⟩ := cluster_put key rfl
        (key.exists_reads isText stands x.cluster) (noList key rfl) read
      exact ⟨x', read', key.text?_of_reads isText stands reads⟩

theorem read_put_secrets {origin : Option Origin} {entries : List (String × Tree)} {x : Settings}
    {text : String} (isWording : IsWording text)
    (noList : ∀ origin items, valueOf? "kubernetes" entries ≠ some (.list origin items))
    (read : Settings.read (Located.mk [] (.table origin entries)) = .ok x) :
    ∃ x', Settings.read (Located.mk [] (Tree.overlay (some (.table origin entries))
        (Tree.alone (variableTree listPath text) SettingField.secrets.keys))) = .ok x' ∧
      x'.cluster.imagePullSecrets = (text.toList.splitOn ',').map String.ofList := by
  have parts (trail : List Link) :
      Source.list Source.string (Located.mk trail (variableTree listPath text)) =
        .ok ((text.toList.splitOn ',').map String.ofList) := by
    rw [variableTree_listPath isWording]
    exact list_texts _
  obtain ⟨x', read', _, reads⟩ := cluster_put .imagePullSecrets (variableTree_notTable _ text)
    ⟨{ x.cluster with imagePullSecrets := (text.toList.splitOn ',').map String.ofList }, parts⟩
    noList read
  exact ⟨x', read', Except.ok.inj (reads.symm.trans (parts _))⟩

/-- No single value can stand for the list of names. -/
theorem not_read_put_secrets {below : Option Tree} {origin : Option Origin} {scalar : Scalar}
    {x : Settings} : Settings.read (Located.mk [] (Tree.overlay below
        (Tree.alone (.scalar origin scalar) SettingField.secrets.keys))) ≠ .ok x := by
  intro read
  have small : Text.toLower "kubernetes" = "kubernetes" :=
    (SettingsPart.isName_key .cluster).1.isPlain.1
  have isWhole : (Tree.scalar origin scalar).part.isTable = false := rfl
  have under := overlay_single (Tree.child? below "kubernetes")
    (ClusterField.isName_key .imagePullSecrets).1 isWhole
  rw [SettingField.secrets, SettingField.keys, Tree.overlay_alone, small, under] at read
  obtain ⟨⟨tree, there, readCluster⟩, _⟩ := sections_of_read read
  rw [valueOf?_insertEntry, if_pos rfl] at there
  cases there
  have isList := secrets_of_read readCluster (by rw [ClusterField.key, valueOf?_insertEntry, if_pos rfl])
  cases isList

/-- A text that a variable sets arrives as it is unless it spells a truth value or a number. -/
theorem text_arrives (isText : field ≠ SettingField.secrets)
    (leave : AllLeave field.keys (before ++ after))
    (otherwise : OtherwiseLoads environment files before after field) (text : String) :
    ∃ settings,
      loadFor environment files (before ++ (field.variableName, text) :: after) = .ok settings ∧
      field.text? settings = some (arrival text) := by
  obtain ⟨origin, entries, x, read, noList, trees⟩ := exists_below leave otherwise
  obtain ⟨settings, read', arrives⟩ := read_put_text isText noList read text
  refine ⟨settings, ?_, arrives⟩
  rw [loadFor, trees]
  exact settingsOf_eq_ok_iff.mpr read'

theorem secrets_arrive (leave : AllLeave SettingField.secrets.keys (before ++ after))
    (otherwise : OtherwiseLoads environment files before after .secrets) {text : String}
    (isWording : IsWording text) :
    ∃ settings,
      loadFor environment files (before ++ (SettingField.secrets.variableName, text) :: after) =
        .ok settings ∧
      settings.cluster.imagePullSecrets = (text.toList.splitOn ',').map String.ofList := by
  obtain ⟨origin, entries, x, read, noList, trees⟩ := exists_below leave otherwise
  rw [SettingField.path_secrets] at trees
  obtain ⟨settings, read', arrives⟩ := read_put_secrets isWording (noList _ rfl) read
  refine ⟨settings, ?_, arrives⟩
  rw [loadFor, trees]
  exact settingsOf_eq_ok_iff.mpr read'

/-- What is no wording is no list of names, whatever else is set. -/
theorem isOk_of_not_isWording (leave : AllLeave SettingField.secrets.keys (before ++ after))
    {text : String} (noWording : ¬IsWording text) :
    (loadFor environment files
      (before ++ (SettingField.secrets.variableName, text) :: after)).isOk = false := by
  rw [loadFor, layeredTree_field files environment leave, SettingField.path_secrets,
    variableTree_of_not_isWording noWording]
  cases layeredTree files environment (before ++ after) with
  | error failure => rfl
  | ok tree =>
      rw [Except.map, ok_bind]
      cases loaded : settingsOf (Tree.overlay (some tree)
          (Tree.alone (.scalar (some .environment) (variableScalar text))
            SettingField.secrets.keys)) with
      | error failure => rfl
      | ok settings => exact absurd (settingsOf_eq_ok_iff.mp loaded) not_read_put_secrets

end Loading

namespace Sample

def localFiles : String → Option String
  | "base.yaml" => some "data_plane: l\nkubernetes:\n  namespace: n\n  init_image: i\n"
  | _ => none

/-- The settings of the cluster by their places in a list. -/
def listedFiles : String → Option String
  | "base.yaml" => some "data_plane: l\nkubernetes: [n, null, [], null, i]\n"
  | _ => none

/-- The files have a table for the cluster, and settings are read from them. -/
theorem localFiles_layered : ∃ tree, layeredTree localFiles .dev [] = .ok tree ∧
    (tree.get? "kubernetes").map (·.part.isTable) = some true ∧ (settingsOf tree).isOk = true := by
  have checked : (layeredTree localFiles .dev []).map (fun tree =>
      ((tree.get? "kubernetes").map (·.part.isTable), (settingsOf tree).isOk)) =
        .ok (some true, true) := by
    decide +kernel
  obtain ⟨tree, layered, parts⟩ := map_eq_ok_iff.mp checked
  exact ⟨tree, layered, Prod.mk.inj parts⟩

theorem localFiles_load : (loadFor .dev localFiles []).isOk = true := by
  obtain ⟨tree, layered, _, isOk⟩ := localFiles_layered
  rw [loadFor, layered, ok_bind, isOk]

theorem localFiles_otherwiseLoad (field : SettingField) :
    OtherwiseLoads .dev localFiles [] [] field := by
  refine .without localFiles_load ?_
  rintro _ - tree loaded origin items isList
  obtain ⟨tree', layered, isTable, _⟩ := localFiles_layered
  obtain rfl : tree' = tree := Except.ok.inj (layered.symm.trans loaded)
  rw [isList] at isTable
  cases isTable

end Sample

end SyncPods.Layers
