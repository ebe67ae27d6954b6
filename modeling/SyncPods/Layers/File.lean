import SyncPods.Layers.Tree
import SyncPods.Yaml.Document

/-!
# Settings from files

A file of configuration is a YAML document with a map at its root.
-/

namespace SyncPods.Layers

inductive FileFault where
  | malformed
  /-- A key of a map is neither a text nor a whole number. -/
  | badKey
deriving DecidableEq, Repr

/-- The name that a key of a map is. -/
def keyName? : Yaml.Node → Option String
  | .text s => some s
  | .integer n => some (toString n)
  | _ => none

mutual

/-- A node of a file as a value of configuration. -/
def Tree.ofNode (origin : Origin) : Yaml.Node → Except FileFault Tree
  | .null => .ok (.scalar origin .nil)
  | .bool b => .ok (.scalar origin (.bool b))
  | .integer n => .ok (.scalar origin (.integer n))
  | .real text =>
    match Double.ofText? text with
    | some x => .ok (.scalar origin (.real x))
    | none => .error .malformed
  | .text s => .ok (.scalar origin (.text s))
  | .list items => do return .list origin (← Tree.ofNodes origin items)
  | .map entries => do return .table origin (← Tree.ofEntries origin [] entries)

def Tree.ofNodes (origin : Origin) : List Yaml.Node → Except FileFault (List Tree)
  | [] => .ok []
  | node :: rest => do
    let tree ← Tree.ofNode origin node
    return tree :: (← Tree.ofNodes origin rest)

/-- The entries of a map after those that are given. -/
def Tree.ofEntries (origin : Origin) (sofar : List (String × Tree)) :
    List (Yaml.Node × Yaml.Node) → Except FileFault (List (String × Tree))
  | [] => .ok sofar
  | (key, node) :: rest =>
    match keyName? key with
    | none => .error .badKey
    | some name => do
      let tree ← Tree.ofNode origin node
      Tree.ofEntries origin (insertEntry name tree sofar) rest

end

/-- A text without the mark of its byte order at its start. -/
def withoutOrderMark (text : String) : String :=
  match text.toList with
  | '\ufeff' :: rest => String.ofList rest
  | _ => text

/-- The entries of a file of the name. -/
def fileLayer (name text : String) : Except FileFault (List (String × Tree)) :=
  match Yaml.Document.ofText? (withoutOrderMark text) with
  | none => .error .malformed
  | some .void => .ok []
  | some (.node root) => do
    match ← Tree.ofNode (.file name) root with
    | .table _ entries => return entries
    | _ => .error .malformed

end SyncPods.Layers
