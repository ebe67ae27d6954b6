import SyncPods.Decimal.Double
import SyncPods.Dict
import SyncPods.Text.LowerCase

/-!
# Trees of configuration

Configuration comes in layers, of which each is a tree of tables, lists and scalars. A layer is put
over those below it: tables are merged name by name at every depth, everything else gives way as a
whole. Names in tables are in small letters; inside of lists they stay as they are.
-/

namespace SyncPods.Layers

/-- Where a value was written down. -/
inductive Origin where
  /-- A file of the configuration directory. -/
  | file (name : String)
  | environment
deriving DecidableEq, Repr

inductive Scalar where
  | nil
  | bool (value : Bool)
  | integer (value : Int)
  | real (value : Double)
  | text (value : String)
deriving DecidableEq, Repr

/-- A value of configuration. A table that several layers may add to has no origin, nor has an item
that only fills a place in a list. -/
inductive Tree where
  | scalar (origin : Option Origin) (value : Scalar)
  | list (origin : Option Origin) (items : List Tree)
  | table (origin : Option Origin) (entries : List (String × Tree))
deriving Repr

namespace Tree

instance : Inhabited Tree := ⟨.table none []⟩

def void : Tree := .table none []

/-- What fills a place that nothing was written for. -/
def filler : Tree := .scalar none .nil

def origin : Tree → Option Origin
  | scalar origin _ => origin
  | list origin _ => origin
  | table origin _ => origin

/-- The origin and the entries of a table; of anything else there are none. -/
def tableParts : Option Tree → Option Origin × List (String × Tree)
  | some (table origin entries) => (origin, entries)
  | _ => (none, [])

/-- The origin and the items of a list; of anything else there are none. -/
def listParts : Option Tree → Option Origin × List Tree
  | some (list origin items) => (origin, items)
  | _ => (none, [])

def get? (tree : Tree) (name : String) : Option Tree := valueOf? name (tableParts tree).2

mutual

/-- A value put over what lies below it. A table without entries changes nothing. -/
def overlay (below : Option Tree) : Tree → Tree
  | .table _ [] => below.getD void
  | .table _ (entry :: rest) =>
    .table (tableParts below).1 (overlayEntries (tableParts below).2 (entry :: rest))
  | tree => tree

/-- The entries of a table put over those below them, one after the other. -/
def overlayEntries (below : List (String × Tree)) : List (String × Tree) → List (String × Tree)
  | [] => below
  | (name, tree) :: rest =>
    let key := Text.toLower name
    overlayEntries (insertEntry key (overlay (valueOf? key below) tree) below) rest

end

end Tree

end SyncPods.Layers
