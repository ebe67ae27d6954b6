import SyncPods.Environment
import SyncPods.Layers.File
import SyncPods.Layers.Reading
import SyncPods.Layers.Variable
import SyncPods.Settings.Basic

/-!
# Loading settings

Settings come in three layers: the base file, the file of the environment over it, which may be
absent, and the environment variables over both.
-/

namespace SyncPods.Layers

inductive LoadError where
  /-- The text that should name the environment names none. -/
  | unsupportedEnvironment (error : Environment.Unsupported)
  | missingFile (name : String)
  | file (name : String) (fault : FileFault)
  /-- A path leads to a place before the start of a list. -/
  | badPlace
  | reading (failure : ReadFailure)
deriving DecidableEq, Repr

namespace LoadError

/-- Whether an error ends the program before it can tell of it. -/
def isCrash : LoadError → Bool
  | unsupportedEnvironment _ => true
  | file _ .badKey => true
  | badPlace => true
  | _ => false

def message : LoadError → String
  | unsupportedEnvironment error => error.message
  | missingFile name => s!"configuration file \"{Origin.directory}/{name}\" not found"
  | file name .malformed => s!"malformed document in {Origin.directory}/{name}"
  | file name .badKey => s!"unreadable key in {Origin.directory}/{name}"
  | badPlace => "a path leads to a place before the start of a list"
  | reading failure => failure.message

end LoadError

/-- The file that all settings start from. -/
def baseFile : String := "base.yaml"

def environmentFile (environment : Environment) : String := environment.name ++ ".yaml"

def fileNames (name : String) : List String := [name, name ++ ".yaml", name ++ ".yml"]

/-- The names of all files that settings may be in. -/
def candidateFiles : List String :=
  (baseFile :: [Environment.prod, .staging, .dev].map environmentFile).flatMap fileNames

/-- The first file there is of those a name stands for. -/
def findFile (files : String → Option String) (name : String) : Option (String × String) :=
  (fileNames name).findSome? fun name => (files name).map (name, ·)

def putLayer (tree : Tree) (entries : List (String × Tree)) : Except LoadError Tree :=
  match tree.putAll entries with
  | some tree => .ok tree
  | none => .error .badPlace

def putFile (tree : Tree) (name text : String) : Except LoadError Tree :=
  match fileLayer name text with
  | .ok entries => putLayer tree entries
  | .error fault => .error (.file name fault)

def layeredTree (files : String → Option String) (environment : Environment)
    (vars : List (String × String)) : Except LoadError Tree := do
  let some (name, text) := findFile files baseFile | throw (.missingFile baseFile)
  let tree ← putFile .void name text
  let tree ←
    match findFile files (environmentFile environment) with
    | some (name, text) => putFile tree name text
    | none => pure tree
  putLayer tree (variableLayer vars)

def settingsOf (tree : Tree) : Except LoadError Settings :=
  (Settings.read (Located.mk [] tree)).mapError .reading

def loadFor (environment : Environment) (files : String → Option String)
    (vars : List (String × String)) : Except LoadError Settings := do
  settingsOf (← layeredTree files environment vars)

def environmentVariable : String := "APP_ENVIRONMENT"

/-- The settings for the environment that the variables name. -/
def load (files : String → Option String) (vars : List (String × String)) :
    Except LoadError Settings := do
  let environment ←
    (Environment.ofVariable (valueOf? environmentVariable vars)).mapError
      .unsupportedEnvironment
  loadFor environment files vars

end SyncPods.Layers
