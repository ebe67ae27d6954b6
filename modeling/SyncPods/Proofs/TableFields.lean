import SyncPods.Layers.Load
import SyncPods.Proofs.RecordReading

/-!
# Tables with another value at one field

A record is read from a table if all fields that the table has can be read and none is missing that
must be there. So a table of a record remains one when one field gets another value that can be read,
and what is read from it has that value: `conventions_insertEntry`, `cluster_insertEntry` and
`settings_insertEntry`.
-/

namespace SyncPods.Layers

/-! ## Records in tables -/

/-- A check of each item passes if it passes all of them. -/
theorem forIn_unit_eq_ok_iff {ε β : Type} {items : List β} {check : β → Except ε (ForInStep Unit)}
    (onwards : ∀ item r, check item = .ok r → r = .yield ()) :
    forIn items () (fun item _ => check item) = .ok () ↔
      ∀ item ∈ items, check item = .ok (.yield ()) := by
  induction items with
  | nil => simp [pure, Except.pure]
  | cons item items ih =>
      rw [List.forIn_cons, List.forall_mem_cons]
      refine bind_eq_ok_iff.trans ?_
      constructor
      · rintro ⟨r, passed, others⟩
        obtain rfl := onwards item r passed
        exact ⟨passed, ih.mp others⟩
      · rintro ⟨passed, others⟩
        exact ⟨_, passed, ih.mpr others⟩

section Record

variable {α : Type} {type name : String} {shape : Shape Located ReadFailure α} {trail : List Link}
  {origin origin' : Option Origin} {entries : List (String × Tree)} {value : Tree} {x x' : α}

/-- The value of a name in a table at the end of some steps. -/
def inTable (trail : List Link) (name : String) (tree : Tree) : Located :=
  ⟨trail ++ [.name name], tree⟩

/-- What is found of the fields among the entries of a table. -/
def foundIn (trail : List Link) (entries : List (String × Tree)) : Found Located ReadFailure :=
  Found.byName .mismatch fun name => (valueOf? name entries).map (inTable trail name)

/-- All entries of a table that are fields of a record can be read. -/
def AllRead (shape : Shape Located ReadFailure α) (trail : List Link)
    (entries : List (String × Tree)) : Prop :=
  ∀ entry ∈ entries, ∀ read, valueOf? entry.1 shape.fields = some read →
    read (inTable trail entry.1 entry.2) = .ok ()

/-- The look at one entry. -/
def readEntry (shape : Shape Located ReadFailure α) (trail : List Link)
    (entry : String × Tree) : Except ReadFailure (ForInStep Unit) :=
  match valueOf? entry.1 shape.fields with
  | some read => (read (inTable trail entry.1 entry.2)).map fun _ => .yield ()
  | none => .ok (.yield ())

theorem readEntry_eq_ok_iff {entry : String × Tree} {r : ForInStep Unit} :
    readEntry shape trail entry = .ok r ↔ r = .yield () ∧ ∀ read,
      valueOf? entry.1 shape.fields = some read → read (inTable trail entry.1 entry.2) = .ok () := by
  rw [readEntry]
  cases valueOf? entry.1 shape.fields with
  | none => simp [eq_comm]
  | some read =>
      dsimp only
      rw [map_eq_ok_iff]
      constructor
      · rintro ⟨_, reads, rfl⟩
        exact ⟨rfl, fun _ same => Option.some.inj same ▸ reads⟩
      · rintro ⟨rfl, reads⟩
        exact ⟨(), reads read rfl, rfl⟩

theorem record_table :
    Located.record type shape ⟨trail, .table origin entries⟩ =
      forIn entries () (fun entry _ => readEntry shape trail entry) >>= fun _ =>
        shape.build (foundIn trail entries) := by
  rw [Located.record]
  dsimp only
  congr 1
  congr 1
  funext entry _
  rw [readEntry]
  cases valueOf? entry.1 shape.fields with
  | none => rfl
  | some read =>
      dsimp only
      show (read (inTable trail entry.1 entry.2) >>= fun _ => Except.ok (ForInStep.yield ())) = _
      cases read (inTable trail entry.1 entry.2) <;> rfl

theorem record_table_eq_ok_iff (type : String) :
    Located.record type shape ⟨trail, .table origin entries⟩ = .ok x ↔
      AllRead shape trail entries ∧ shape.build (foundIn trail entries) = .ok x := by
  have loop : forIn entries () (fun entry _ => readEntry shape trail entry) = .ok () ↔
      ∀ entry ∈ entries, readEntry shape trail entry = .ok (.yield ()) :=
    forIn_unit_eq_ok_iff fun _ _ passed => (readEntry_eq_ok_iff.mp passed).1
  rw [record_table, bind_eq_ok_iff]
  constructor
  · rintro ⟨⟨⟩, passed, built⟩
    exact ⟨fun entry listed => (readEntry_eq_ok_iff.mp (loop.mp passed entry listed)).2, built⟩
  · rintro ⟨reads, built⟩
    exact ⟨(), loop.mpr fun entry listed => readEntry_eq_ok_iff.mpr ⟨rfl, reads entry listed⟩, built⟩

/-- What is found of the fields differs at most in one, which holds a node. -/
structure Replaced (name : String) (node : Located) (found found' : Found Located ReadFailure) :
    Prop where
  here : found'.node? name = some node
  others : ∀ other, other ≠ name → found'.node? other = found.node? other
  missing : found'.missing = found.missing
  gap : found'.gap? = found.gap?

theorem foundIn_node? (trail : List Link) (entries : List (String × Tree)) (name : String) :
    (foundIn trail entries).node? name = (valueOf? name entries).map (inTable trail name) := rfl

theorem replaced_insertEntry (trail : List Link) (name : String) (value : Tree)
    (entries : List (String × Tree)) :
    Replaced name (inTable trail name value) (foundIn trail entries)
      (foundIn trail (insertEntry name value entries)) where
  here := by rw [foundIn_node?, valueOf?_insertEntry, if_pos rfl, Option.map_some]
  others := by
    intro other different
    rw [foundIn_node?, foundIn_node?, valueOf?_insertEntry, if_neg different]
  missing := rfl
  gap := rfl

/-- With a value in one field from which the record can be built, it is read from the table. -/
theorem record_insertEntry [shape.Lawful] (type : String) (origin' : Option Origin) {P : α → Prop}
    (changes : ∀ found found', Replaced name (inTable trail name value) found found' →
      shape.build found = .ok x → ∃ x', shape.build found' = .ok x' ∧ P x')
    (read : Located.record type shape ⟨trail, .table origin entries⟩ = .ok x) :
    ∃ x', Located.record type shape ⟨trail, .table origin' (insertEntry name value entries)⟩ =
      .ok x' ∧ P x' := by
  -- The new entry can be read, since the record was built with it; all others were read before.
  obtain ⟨reads, built⟩ := (record_table_eq_ok_iff type).mp read
  have replaced := replaced_insertEntry trail name value entries
  obtain ⟨x', built', holds⟩ := changes _ _ replaced built
  refine ⟨x', (record_table_eq_ok_iff type).mpr ⟨?_, built'⟩, holds⟩
  intro entry listed readField known
  rcases mem_insertEntry listed with rfl | earlier
  · have field := mem_of_valueOf?_eq_some known
    exact Shape.Lawful.reads built' _ field _ replaced.here
  · exact reads entry earlier readField known

end Record

/-! ## Fields -/

/-- A text among the conventions. -/
inductive ConventionField where
  | configDir
  | sourceDir
  | destinationDir
  | stagingDir
  | secretsDir
  | jobOutputFile
  | exitCodeFile
  | terminationMarker
  | connectorConfigFile
  | catalogFile
  | inputStateFile
  | entrypointVariable
  | sidecarBinary

/-- A text among the settings of the cluster, or the list of the names of secrets. -/
inductive ClusterField where
  | namespaceName
  | serviceAccount
  | imagePullSecrets
  | imagePullPolicy
  | initImage
  | connectorSecret

/-- A part of the settings that has fields of its own, or the only text that is none. -/
inductive SettingsPart where
  | dataPlane
  | cluster
  | conventions

namespace ConventionField

def key : ConventionField → String
  | configDir => "config_dir"
  | sourceDir => "source_dir"
  | destinationDir => "destination_dir"
  | stagingDir => "staging_dir"
  | secretsDir => "secrets_dir"
  | jobOutputFile => "job_output_filename"
  | exitCodeFile => "exit_code_filename"
  | terminationMarker => "termination_marker_filename"
  | connectorConfigFile => "connector_config_filename"
  | catalogFile => "catalog_filename"
  | inputStateFile => "input_state_filename"
  | entrypointVariable => "entrypoint_env_var"
  | sidecarBinary => "sidecar_binary"

def text (c : Conventions) : ConventionField → String
  | configDir => c.configDir
  | sourceDir => c.sourceDir
  | destinationDir => c.destinationDir
  | stagingDir => c.stagingDir
  | secretsDir => c.secretsDir
  | jobOutputFile => c.jobOutputFile
  | exitCodeFile => c.exitCodeFile
  | terminationMarker => c.terminationMarker
  | connectorConfigFile => c.connectorConfigFile
  | catalogFile => c.catalogFile
  | inputStateFile => c.inputStateFile
  | entrypointVariable => c.entrypointVariable
  | sidecarBinary => c.sidecarBinary

end ConventionField

namespace ClusterField

def key : ClusterField → String
  | namespaceName => "namespace"
  | serviceAccount => "service_account"
  | imagePullSecrets => "image_pull_secrets"
  | imagePullPolicy => "image_pull_policy"
  | initImage => "init_image"
  | connectorSecret => "connector_secret_name"

/-- The text at the field; none if there is none, or a list. -/
def text? (c : ClusterSettings) : ClusterField → Option String
  | namespaceName => some c.namespaceName
  | serviceAccount => c.serviceAccount
  | imagePullSecrets => none
  | imagePullPolicy => c.imagePullPolicy
  | initImage => some c.initImage
  | connectorSecret => c.connectorSecret

/-- A node at the field is read as the settings have it. -/
def Reads (node : Located) (c : ClusterSettings) : ClusterField → Prop
  | namespaceName => Source.string node = .ok c.namespaceName
  | serviceAccount => Source.optionalString node = .ok c.serviceAccount
  | imagePullSecrets => Source.list Source.string node = .ok c.imagePullSecrets
  | imagePullPolicy => Source.optionalString node = .ok c.imagePullPolicy
  | initImage => Source.string node = .ok c.initImage
  | connectorSecret => Source.optionalString node = .ok c.connectorSecret

end ClusterField

namespace SettingsPart

def key : SettingsPart → String
  | dataPlane => "data_plane"
  | cluster => "kubernetes"
  | conventions => "scripts"

/-- A node at the part is read as the settings have it. -/
def Reads (node : Located) (x : Settings) : SettingsPart → Prop
  | dataPlane => Source.string node = .ok x.dataPlane
  | cluster => ClusterSettings.read node = .ok x.cluster
  | conventions => Conventions.read node = .ok x.conventions

end SettingsPart

instance (name : String) (value : Conventions → String) :
    (Conventions.textField name value : Shape Located ReadFailure _).Lawful :=
  inferInstanceAs (Shape.withDefault name Source.string (value Conventions.builtIn)).Lawful

instance (name : String) :
    (ClusterSettings.optionalText name : Shape Located ReadFailure _).Lawful :=
  inferInstanceAs (Shape.withDefault name Source.optionalString none).Lawful

section Fields

variable {trail : List Link} {origin : Option Origin} {entries : List (String × Tree)}
  {value : Tree}

/-- With another value at one field, conventions are read with the text that it stands for. -/
theorem conventions_insertEntry {c : Conventions} {v : String} (origin' : Option Origin)
    (field : ConventionField) (holds : Source.string (inTable trail field.key value) = .ok v)
    (read : Conventions.read (Located.mk trail (.table origin entries)) = .ok c) :
    ∃ c', Conventions.read
        (Located.mk trail (.table origin' (insertEntry field.key value entries))) = .ok c' ∧
      field.text c' = v := by
  refine record_insertEntry "ScriptConventions" origin' ?_ read
  intro found found' ⟨here, others, _, _⟩ built
  simp only [Shape.build_seq, Shape.build_map, Conventions.textField, Shape.build_withDefault,
    bind_assoc, ok_bind] at built ⊢
  simp only [bind_eq_ok_iff, Except.ok.injEq] at built
  obtain ⟨_, givenConfig, _, givenSource, _, givenDestination, _, givenStaging, _, givenSecrets,
    _, givenOutput, _, givenExit, _, givenMarker, _, givenConnector, _, givenCatalog, _, givenInput,
    _, givenEntrypoint, _, givenSidecar, rfl⟩ := built
  clear read
  cases field <;> simp only [ConventionField.key] at here others holds <;>
    simp [others, here, holds, givenConfig, givenSource, givenDestination, givenStaging,
      givenSecrets, givenOutput, givenExit, givenMarker, givenConnector, givenCatalog, givenInput,
      givenEntrypoint, givenSidecar, ConventionField.text]

theorem cluster_insertEntry {c : ClusterSettings} (origin' : Option Origin)
    (field : ClusterField) (legible : ∃ c₀, field.Reads (inTable trail field.key value) c₀)
    (read : ClusterSettings.read (Located.mk trail (.table origin entries)) = .ok c) :
    ∃ c', ClusterSettings.read
        (Located.mk trail (.table origin' (insertEntry field.key value entries))) = .ok c' ∧
      field.Reads (inTable trail field.key value) c' := by
  refine record_insertEntry "KubernetesConfig" origin' ?_ read
  intro found found' ⟨here, others, missing, _⟩ built
  simp only [Shape.build_seq, Shape.build_map, ClusterSettings.optionalText, Shape.build_required,
    Shape.build_withDefault, bind_assoc, ok_bind] at built ⊢
  simp only [bind_eq_ok_iff, Except.ok.injEq] at built
  obtain ⟨_, givenNamespace, _, givenAccount, _, givenSecrets, _, givenPolicy, _, givenImage,
    _, givenSecret, _, givenTolerations, _, givenRunAs, rfl⟩ := built
  clear read
  obtain ⟨c₀, reads⟩ := legible
  cases field <;> simp only [ClusterField.key, ClusterField.Reads] at here others reads ⊢ <;>
    simp [others, here, missing, reads, givenNamespace, givenAccount, givenSecrets, givenPolicy,
      givenImage, givenSecret, givenTolerations, givenRunAs]

theorem settings_insertEntry {x : Settings} (origin' : Option Origin)
    (part : SettingsPart) (legible : ∃ x₀, part.Reads (inTable trail part.key value) x₀)
    (read : Settings.read (Located.mk trail (.table origin entries)) = .ok x) :
    ∃ x', Settings.read
        (Located.mk trail (.table origin' (insertEntry part.key value entries))) = .ok x' ∧
      part.Reads (inTable trail part.key value) x' := by
  refine record_insertEntry "LauncherConfig" origin' ?_ read
  intro found found' ⟨here, others, missing, gap⟩ built
  simp only [Shape.build_seq, Shape.build_map, Shape.build_required, Shape.build_optional,
    Shape.build_withDefault, bind_assoc, ok_bind] at built ⊢
  simp only [bind_eq_ok_iff, Except.ok.injEq] at built
  obtain ⟨_, givenPlane, _, givenCluster, _, givenFlags, _, givenConventions, _, givenTracking,
    rfl⟩ := built
  clear read
  obtain ⟨x₀, reads⟩ := legible
  cases part <;> simp only [SettingsPart.key, SettingsPart.Reads] at here others reads ⊢ <;>
    simp [others, here, missing, gap, reads, givenPlane, givenCluster, givenFlags,
      givenConventions, givenTracking]

/-- The settings of the cluster are always there, and conventions are read where there are any. -/
theorem sections_of_read {x : Settings}
    (read : Settings.read (Located.mk trail (.table origin entries)) = .ok x) :
    (∃ tree, valueOf? "kubernetes" entries = some tree ∧
      ClusterSettings.read (inTable trail "kubernetes" tree) = .ok x.cluster) ∧
    ∀ tree, valueOf? "scripts" entries = some tree →
      Conventions.read (inTable trail "scripts" tree) = .ok x.conventions := by
  obtain ⟨_, built⟩ := (record_table_eq_ok_iff "LauncherConfig").mp read
  simp only [Shape.build_seq, Shape.build_map, Shape.build_required, Shape.build_optional,
    Shape.build_withDefault, bind_assoc, ok_bind, bind_eq_ok_iff, Except.ok.injEq,
    foundIn_node?] at built
  obtain ⟨_, _, _, givenCluster, _, _, _, givenConventions, _, _, rfl⟩ := built
  constructor
  · cases found : valueOf? "kubernetes" entries with
    | none =>
        rw [found] at givenCluster
        cases givenCluster
    | some tree =>
        rw [found] at givenCluster
        exact ⟨tree, rfl, givenCluster⟩
  · intro tree found
    rwa [found] at givenConventions

/-- The names of secrets are read where there are any. -/
theorem secrets_of_read {c : ClusterSettings} {tree : Tree}
    (read : ClusterSettings.read (Located.mk trail (.table origin entries)) = .ok c)
    (there : valueOf? "image_pull_secrets" entries = some tree) :
    Source.list Source.string (inTable trail "image_pull_secrets" tree) =
      .ok c.imagePullSecrets := by
  obtain ⟨_, built⟩ := (record_table_eq_ok_iff "KubernetesConfig").mp read
  simp only [Shape.build_seq, Shape.build_map, ClusterSettings.optionalText, Shape.build_required,
    Shape.build_withDefault, bind_assoc, ok_bind, bind_eq_ok_iff, Except.ok.injEq,
    foundIn_node?, there] at built
  obtain ⟨_, _, _, _, _, givenSecrets, _, _, _, _, _, _, _, _, _, _, rfl⟩ := built
  exact givenSecrets

end Fields

end SyncPods.Layers
