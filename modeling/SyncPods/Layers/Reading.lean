import SyncPods.Layers.Path
import SyncPods.Shape
import SyncPods.Text.Quoted

/-!
# Reading typed values from a tree

Where a text or a whole number is wanted, scalars of other kinds that can stand for one are taken.
What cannot be is told with the path that leads to it and with its origin.
-/

namespace SyncPods.Layers

namespace Origin

/-- The directory that holds the files of configuration. -/
def directory : String := "configuration"

def shown : Origin → String
  | file name => directory ++ "/" ++ name
  | environment => "the environment"

end Origin

/-- A step from the root of a tree. -/
inductive Link where
  | name (name : String)
  | place (place : Nat)
deriving DecidableEq, Repr

/-- Steps as a text. No point stands behind a place, nor before a bracket. -/
def trailText : List Link → String
  | [] => ""
  | .place place :: rest => s!"[{place}]" ++ trailText rest
  | .name name :: rest =>
    let further := trailText rest
    if further.isEmpty || further.startsWith "[" then name ++ further else name ++ "." ++ further

/-- A value in a tree, with the steps that lead to it. -/
structure Located where
  trail : List Link
  tree : Tree
deriving Repr

inductive ReadFailure where
  | mismatch (mismatch : Mismatch)
  /-- A value that cannot stand for a scalar of the type. -/
  | noScalar (found expected : String) (trail : List Link) (origin : Option Origin)
deriving DecidableEq, Repr

def ReadFailure.message : ReadFailure → String
  | mismatch m => m.message
  | noScalar found expected trail origin =>
    let place :=
      match origin with
      | some origin => s!" in {origin.shown}"
      | none => ""
    s!"invalid type: {found}, expected {expected} for key `{trailText trail}`{place}"

def Scalar.described : Scalar → String
  | nil => "unit value"
  | bool b => s!"boolean `{b}`"
  | integer n => s!"integer `{n}`"
  | real x => s!"floating point `{x.pointed}`"
  | text s => "string " ++ Text.quoted s

def Tree.described : Tree → String
  | scalar _ value => value.described
  | list _ _ => "sequence"
  | table _ _ => "map"

/-- The text that a scalar can stand for. -/
def Scalar.text? : Scalar → Option String
  | nil => none
  | bool b => some (toString b)
  | integer n => some (toString n)
  | real x => some x.plain
  | text s => some s

/-- The whole number that a scalar can stand for. -/
def Scalar.whole? : Scalar → Option Int
  | nil => none
  | bool b => some (if b then 1 else 0)
  | integer n => some n
  | real x => some x.toWhole
  | text s =>
    let small := Text.toLower s
    if small ∈ ["true", "on", "yes"] then some 1
    else if small ∈ ["false", "off", "no"] then some 0
    else Whole.ofText? s

namespace Located

/-- The value of a name in the table. -/
def child (node : Located) (name : String) (tree : Tree) : Located :=
  ⟨node.trail ++ [.name name], tree⟩

/-- The item at a place in the list. -/
def item (node : Located) (place : Nat) (tree : Tree) : Located :=
  ⟨node.trail ++ [.place place], tree⟩

def unexpected (node : Located) (expected : String) : ReadFailure :=
  .mismatch (.wrongType node.tree.described expected)

/-- A scalar that can stand for a value of the type. -/
def scalarAs {α : Type} (expected : String) (value? : Scalar → Option α) (node : Located) :
    Except ReadFailure α :=
  let failure := ReadFailure.noScalar node.tree.described expected node.trail node.tree.origin
  match node.tree with
  | .scalar _ scalar =>
    match value? scalar with
    | some value => .ok value
    | none => .error failure
  | _ => .error failure

/-- A truth value or a text, and nothing that could stand for one. -/
def boolOrText (node : Located) : Except ReadFailure (Option (Bool ⊕ String)) :=
  match node.tree with
  | .scalar _ (.bool b) => .ok (some (.inl b))
  | .scalar _ (.text s) => .ok (some (.inr s))
  | _ => .ok none

def orNil {α : Type} (read : Located → Except ReadFailure α) (node : Located) :
    Except ReadFailure (Option α) :=
  match node.tree with
  | .scalar _ .nil => .ok none
  | _ => (read node).map some

def list {α : Type} (read : Located → Except ReadFailure α) (node : Located) :
    Except ReadFailure (List α) :=
  match node.tree with
  | .list _ items => items.zipIdx.mapM fun (tree, place) => read (node.item place tree)
  | _ => .error (node.unexpected "a sequence")

def dict {α : Type} (read : Located → Except ReadFailure α) (node : Located) :
    Except ReadFailure (Dict α) :=
  match node.tree with
  | .table _ entries => do
    let values ← entries.mapM fun (name, tree) => (read (node.child name tree)).map (name, ·)
    return Dict.ofList values
  | _ => .error (node.unexpected "a map")

/-- A record of the type and shape, from a table or a list. What a list holds behind the fields is
passed over. -/
def record {α : Type} (type : String) (shape : Shape Located ReadFailure α) (node : Located) :
    Except ReadFailure α :=
  match node.tree with
  | .table _ entries => do
    for (name, tree) in entries do
      if let some read := valueOf? name shape.fields then read (node.child name tree)
    shape.build
      (Found.byName .mismatch fun name => (valueOf? name entries).map (node.child name))
  | .list _ items =>
    shape.build
      (Found.byPlace .mismatch type shape.names fun place => items[place]?.map (node.item place))
  | _ => .error (node.unexpected s!"struct {type}")

end Located

instance : Source Located ReadFailure where
  refuse := .mismatch
  text _ := Located.scalarAs "a string" Scalar.text?
  int64 := Located.scalarAs "an integer" Scalar.whole?
  boolOrText := Located.boolOrText
  orNull := Located.orNil
  list := Located.list
  dict := Located.dict
  record := Located.record

end SyncPods.Layers
