import SyncPods.Layers.Path

/-!
# Settings from environment variables

A variable whose name has the right start holds one value of configuration. Two underlines in the
name part the names of a path.
-/

namespace SyncPods.Layers

/-- What the names of the variables start with, in small letters. -/
def variableStart : String := "app_"

/-- The path of the only value that is a list of texts with commas between them. -/
def listPath : String := "kubernetes.image_pull_secrets"

/-- Characters with a point for every two underlines. -/
def pointed : List Char → List Char
  | '_' :: '_' :: rest => '.' :: pointed rest
  | c :: rest => c :: pointed rest
  | [] => []

/-- The path that a variable sets; none if the variable is none of configuration. -/
def variablePath? (name : String) : Option String :=
  let small := Text.toLower name
  if variableStart.toList.isPrefixOf small.toList then
    some (String.ofList (pointed (small.toList.drop variableStart.length)))
  else none

/-- The scalar that the text of a variable stands for. -/
def variableScalar (text : String) : Scalar :=
  let small := Text.toLower text
  if small = "true" then .bool true
  else if small = "false" then .bool false
  else
    match Whole.ofText? text with
    | some n => .integer n
    | none =>
      match Double.ofText? text with
      | some x => .real x
      | none => .text text

/-- The value of a variable, by the path that it sets. -/
def variableTree (path text : String) : Tree :=
  match variableScalar text with
  | .text text =>
    if path = listPath then
      .list (some .environment)
        ((text.splitOn ",").map fun part => .scalar (some .environment) (.text part))
    else .scalar (some .environment) (.text text)
  | scalar => .scalar (some .environment) scalar

/-- The layer of the variables, by paths. Of two variables that set the same path the last
counts. -/
def variableLayer (vars : List (String × String)) : List (String × Tree) :=
  vars.foldl (fun entries (name, text) =>
    match variablePath? name with
    | some path => insertEntry path (variableTree path text) entries
    | none => entries) []

end SyncPods.Layers
