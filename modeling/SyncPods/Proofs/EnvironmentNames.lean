import SyncPods.Proofs.LetterCase
import SyncPods.Proofs.UnreadName

/-!
# The names of environments

A text names an environment just if it is the environment's name, but for the case of ASCII letters.
It selects the file that is put over the base file, which is one of three. Its case plays no part in
anything that is loaded: the variable that holds it sets no field, so its text is nowhere read but as
the name. All this is put together in `environment_in_any_case`.
-/

namespace SyncPods

open Text

theorem valueOf?_single {α : Type} (name : String) (value : α) :
    valueOf? name [(name, value)] = some value := by
  rw [valueOf?_cons, if_pos rfl]

theorem valueOf?_append {α : Type} (name : String) (entries entries' : List (String × α)) :
    valueOf? name (entries ++ entries') = (valueOf? name entries).or (valueOf? name entries') := by
  rw [valueOf?, List.find?_append, Option.map_or]
  rfl

namespace Environment

variable {s t : String} {e : Environment}

theorem parse_eq_ok_iff_toLower : parse s = .ok e ↔ toLower s = e.name := by
  rw [parse]
  split
  · next small => rw [small]; cases e <;> decide
  · next small => rw [small]; cases e <;> decide
  · next small => rw [small]; cases e <;> decide
  · next noProd noStaging noDev =>
      refine iff_of_false nofun ?_
      cases e
      · exact noProd
      · exact noStaging
      · exact noDev

theorem parse_eq_error (unnamed : ∀ e : Environment, toLower s ≠ e.name) :
    parse s = .error ⟨toLower s⟩ := by
  rw [parse]
  split
  · next small => exact absurd small (unnamed .prod)
  · next small => exact absurd small (unnamed .staging)
  · next small => exact absurd small (unnamed .dev)
  · rfl

theorem toLower_eq_name_iff : toLower s = e.name ↔ SameButCase s e.name := by
  have ascii : ∀ d ∈ e.name.toList, d.toNat < 128 := by cases e <;> simp [name]
  have noK : 'k' ∉ e.name.toList := by cases e <;> simp [name]
  have small : e.name.toLower = e.name := by
    rw [← String.toList_inj, toList_toLower]
    cases e <;> rfl
  rw [toLower_eq_iff ascii noK, SameButCase, small]

/-- A text names an environment just if it differs from its name in the case of ASCII letters at
most. -/
theorem parse_eq_ok_iff : parse s = .ok e ↔ SameButCase s e.name := by
  rw [parse_eq_ok_iff_toLower, toLower_eq_name_iff]

theorem parse_name (e : Environment) : parse e.name = .ok e := by
  rw [parse_eq_ok_iff, SameButCase]

theorem parse_eq_error_of_unnamed (unnamed : ∀ e : Environment, ¬SameButCase s e.name) :
    parse s = .error ⟨toLower s⟩ := by
  refine parse_eq_error fun e => ?_
  rw [ne_eq, toLower_eq_name_iff]
  exact unnamed e

/-- Texts that differ in case alone name the same, or are refused with the same words. -/
theorem parse_congr (same : SameButCase s t) : parse s = parse t := by
  rw [parse, parse, same.toLower_eq]

end Environment

namespace Layers

/-! ## The file of the environment -/

/-- The tree of the base file alone. -/
def baseTree (files : String → Option String) : Except LoadError Tree :=
  match findFile files baseFile with
  | some (name, text) => putFile .void name text
  | none => .error (.missingFile baseFile)

/-- With the text in the variable of the environment, the file of the name is the one that is put
over the base file. -/
structure Selects (s file : String) : Prop where
  /-- Where there is a file of the name, it is read, between the base file and the variables. -/
  read : ∀ files vars text, valueOf? environmentVariable vars = some s →
    load (withFile files file text) vars = (do
      let below ← baseTree files
      let tree ← putFile below file text
      settingsOf (← putLayer tree (variableLayer vars)))
  /-- No other files play a part than those that the base file's name and this one stand for. -/
  only : ∀ files files' vars, valueOf? environmentVariable vars = some s →
    (∀ name ∈ fileNames baseFile ++ fileNames file, files name = files' name) →
      load files vars = load files' vars

section Files

variable {files files' : String → Option String} {vars : List (String × String)}
  {s name text file : String} {e : Environment}

theorem load_eq (set : valueOf? environmentVariable vars = some s) :
    load files vars = (Environment.parse s).mapError .unsupportedEnvironment >>= fun environment =>
      loadFor environment files vars := by
  rw [load, set]
  rfl

theorem load_of_parse (parsed : Environment.parse s = .ok e)
    (set : valueOf? environmentVariable vars = some s) :
    load files vars = loadFor e files vars := by
  rw [load_eq set, parsed]
  rfl

theorem load_of_parse_error {error : Environment.Unsupported}
    (refused : Environment.parse s = .error error)
    (set : valueOf? environmentVariable vars = some s) :
    load files vars = .error (.unsupportedEnvironment error) := by
  rw [load_eq set, refused]
  rfl

theorem findFile_of_some (there : files name = some text) :
    findFile files name = some (name, text) := by
  simp [findFile, fileNames, there]

theorem withFile_self (files : String → Option String) (name text : String) :
    withFile files name text name = some text := if_pos rfl

theorem withFile_of_ne {other : String} (different : other ≠ name) :
    withFile files name text other = files other := if_neg different

theorem findFile_congr (agree : ∀ name' ∈ fileNames name, files name' = files' name') :
    findFile files name = findFile files' name := by
  simp only [fileNames, List.forall_mem_cons] at agree
  obtain ⟨own, first, second, _⟩ := agree
  simp only [findFile, fileNames, List.findSome?_cons, List.findSome?_nil, own, first, second]

theorem loadFor_eq (environment : Environment) :
    loadFor environment files vars = (do
      let below ← baseTree files
      let tree ←
        match findFile files (environmentFile environment) with
        | some (name, text) => putFile below name text
        | none => pure below
      settingsOf (← putLayer tree (variableLayer vars))) := by
  rw [loadFor, layeredTree, baseTree]
  cases findFile files baseFile with
  | none => rfl
  | some base =>
      dsimp only
      cases putFile .void base.1 base.2 with
      | error failure => rfl
      | ok below =>
          simp only [ok_bind]
          cases findFile files (environmentFile environment) with
          | none => rfl
          | some file => rw [bind_assoc]

theorem baseTree_congr (agree : ∀ name ∈ fileNames baseFile, files name = files' name) :
    baseTree files = baseTree files' := by
  rw [baseTree, baseTree, findFile_congr agree]

theorem selects_of_parse (parsed : Environment.parse s = .ok e) :
    Selects s (environmentFile e) where
  read := by
    intro files vars text set
    have base : baseTree (withFile files (environmentFile e) text) = baseTree files := by
      rw [baseTree, baseTree, findFile_withFile_base]
    have found := findFile_of_some (withFile_self files (environmentFile e) text)
    rw [load_of_parse parsed set, loadFor_eq, base, found]
  only := by
    intro files files' vars set agree
    rw [List.forall_mem_append] at agree
    rw [load_of_parse parsed set, load_of_parse parsed set, loadFor_eq, loadFor_eq,
      baseTree_congr agree.1, findFile_congr agree.2]

/-- A text that is no document in any file. -/
theorem putFile_malformed (tree : Tree) (name : String) :
    putFile tree name "[" = .error (.file name .malformed) := by
  have malformed : Yaml.Document.ofText? (withoutOrderMark "[") = none := by decide
  rw [putFile, fileLayer, malformed]

theorem baseTree_empty (empty : files baseFile = some "") : baseTree files = .ok .void := by
  rw [baseTree, findFile_of_some empty]
  rfl

theorem loadFor_of_broken_base (broken : files baseFile = some "[") :
    loadFor e files vars = .error (.file baseFile .malformed) := by
  rw [loadFor_eq, baseTree, findFile_of_some broken]
  dsimp only
  rw [putFile_malformed]
  rfl

theorem loadFor_of_broken_file (empty : files baseFile = some "")
    (broken : files (environmentFile e) = some "[") :
    loadFor e files vars = .error (.file (environmentFile e) .malformed) := by
  rw [loadFor_eq, baseTree_empty empty, findFile_of_some broken]
  simp only [ok_bind, putFile_malformed]
  rfl

/-- A file is selected by what names an environment alone, and it is the environment's. -/
theorem exists_parse_of_selects (selects : Selects s file) :
    ∃ e, Environment.parse s = .ok e ∧ file = environmentFile e := by
  have set := valueOf?_single environmentVariable s
  cases parsed : Environment.parse s with
  | error error =>
      have read := selects.read (fun _ => none) _ "" set
      rw [load_of_parse_error parsed set] at read
      cases read
  | ok e =>
      refine ⟨e, rfl, ?_⟩
      by_cases isBase : file = baseFile
      · -- The base file has to be there beside the one that is selected.
        have read := selects.read (fun _ => none) _ "[" set
        rw [load_of_parse parsed set, isBase,
          loadFor_of_broken_base (withFile_self _ baseFile "[")] at read
        cases read
      · -- Of two files that cannot be read the one is told that is put over the base file.
        have other : baseFile ≠ environmentFile e := by cases e <;> decide
        obtain ⟨files, empty, broken⟩ : ∃ files : String → Option String,
            files baseFile = some "" ∧ files (environmentFile e) = some "[" :=
          ⟨withFile (fun _ => some "") (environmentFile e) "[", withFile_of_ne other,
            withFile_self _ _ _⟩
        have empty' : withFile files file "[" baseFile = some "" := by
          rw [withFile_of_ne (Ne.symm isBase), empty]
        have broken' : withFile files file "[" (environmentFile e) = some "[" := by
          by_cases same : environmentFile e = file
          · rw [same, withFile_self]
          · rw [withFile_of_ne same, broken]
        have read := selects.read files _ "[" set
        rw [load_of_parse parsed set, loadFor_of_broken_file empty' broken',
          baseTree_empty empty, ok_bind, putFile_malformed] at read
        cases read
        rfl

theorem selects_iff :
    Selects s file ↔ ∃ e : Environment, SameButCase s e.name ∧ file = environmentFile e := by
  constructor
  · intro selects
    obtain ⟨e, parsed, same⟩ := exists_parse_of_selects selects
    exact ⟨e, Environment.parse_eq_ok_iff.mp parsed, same⟩
  · rintro ⟨e, named, rfl⟩
    exact selects_of_parse (Environment.parse_eq_ok_iff.mpr named)

end Files

/-! ## The variable of the environment -/

theorem ofVariable_congr {s t : String} (same : SameButCase s t)
    (before after : List (String × String)) :
    Environment.ofVariable
        (valueOf? environmentVariable (before ++ (environmentVariable, s) :: after)) =
      Environment.ofVariable
        (valueOf? environmentVariable (before ++ (environmentVariable, t) :: after)) := by
  rw [valueOf?_append, valueOf?_append, valueOf?_cons, valueOf?_cons, if_pos rfl, if_pos rfl]
  cases valueOf? environmentVariable before with
  | some first => rfl
  | none => exact Environment.parse_congr same

/-- The variable of the environment sets a name as well, but none that is read. -/
theorem load_congr {s t : String} (same : SameButCase s t) (files : String → Option String)
    (before after : List (String × String)) :
    load files (before ++ (environmentVariable, s) :: after) =
      load files (before ++ (environmentVariable, t) :: after) := by
  have isPath : variablePath? environmentVariable = some "environment" := by decide
  have isName : IsName "environment" := by decide
  have unread : "environment" ∉ fieldNames := by decide
  rw [load, load, ofVariable_congr same]
  exact bind_congr fun environment =>
    loadFor_unread environment files isPath isName unread before after s t

/-- An environment is named by its name in letters of any ASCII case and by nothing else that full
lower-casing makes of a text. So the file put over the base file is one of three, by the text but for
its case, and what is loaded does not depend on that case either. -/
theorem environment_in_any_case (s : String) :
    (∀ e, Environment.parse s = .ok e ↔ SameButCase s e.name) ∧
    (∀ e : Environment, Environment.parse e.name = .ok e) ∧
    (∀ file, Selects s file ↔
      ∃ e : Environment, SameButCase s e.name ∧ file = environmentFile e) ∧
    (∀ file, Selects s file → file ∈ ["prod.yaml", "staging.yaml", "dev.yaml"]) ∧
    ((∀ e : Environment, ¬SameButCase s e.name) → ∀ files vars,
      valueOf? environmentVariable vars = some s →
        load files vars = .error (.unsupportedEnvironment ⟨toLower s⟩)) ∧
    ∀ t, SameButCase s t →
      (∀ file, Selects s file ↔ Selects t file) ∧
      ∀ files before after,
        load files (before ++ (environmentVariable, s) :: after) =
          load files (before ++ (environmentVariable, t) :: after) := by
  refine ⟨fun e => Environment.parse_eq_ok_iff, Environment.parse_name, fun file => selects_iff,
    ?_, ?_, ?_⟩
  · intro file selects
    obtain ⟨e, _, rfl⟩ := selects_iff.mp selects
    cases e <;> decide
  · intro unnamed files vars set
    exact load_of_parse_error (Environment.parse_eq_error_of_unnamed unnamed) set
  · intro t same
    refine ⟨fun file => ?_, load_congr same⟩
    simp only [selects_iff, same.congr]

/-- The dotted capital I becomes an i with a dot above it, so it spells no i. -/
theorem environment_in_any_case_staging :
    Environment.parse "StAgInG" = .ok .staging ∧
    Selects "STAGING" "staging.yaml" ∧
    "staging.yaml" ∈ ["prod.yaml", "staging.yaml", "dev.yaml"] ∧
    load Sample.stagingFiles [(environmentVariable, "stagİng")] =
      .error (.unsupportedEnvironment ⟨toLower "stagİng"⟩) ∧
    load Sample.stagingFiles [(environmentVariable, "STAGING")] =
      load Sample.stagingFiles [(environmentVariable, "staging")] := by
  have mixed : SameButCase "StAgInG" Environment.staging.name := by decide
  have capitals : SameButCase "STAGING" Environment.staging.name := by decide
  have dotted : ∀ e : Environment, ¬SameButCase "stagİng" e.name := by
    intro e
    cases e <;> decide
  have selects : Selects "STAGING" "staging.yaml" :=
    ((environment_in_any_case "STAGING").2.2.1 _).mpr ⟨.staging, capitals, rfl⟩
  refine ⟨?_, selects, ?_, ?_, ?_⟩
  · exact ((environment_in_any_case "StAgInG").1 .staging).mpr mixed
  · exact (environment_in_any_case "STAGING").2.2.2.1 _ selects
  · exact (environment_in_any_case "stagİng").2.2.2.2.1 dotted _ _ (valueOf?_single _ _)
  · exact ((environment_in_any_case "STAGING").2.2.2.2.2 "staging" capitals).2 _ [] []

end Layers

end SyncPods
