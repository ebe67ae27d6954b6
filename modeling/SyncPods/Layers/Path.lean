import SyncPods.Layers.Tree

/-!
# Paths into a tree

A name at the top of a layer may be a path: names with points between them and places in lists in
brackets. A value put at a path makes the tables and lists that it needs on its way.
-/

namespace SyncPods.Layers

/-- A step into a tree: to a name of a table, or to a place of a list, which counts from the end if
it is negative. -/
inductive Step where
  | name (name : String)
  | place (place : Int)
deriving DecidableEq, Repr

namespace Path

/-- A character of the names in a path. -/
def isNameChar (c : Char) : Bool := c.isAlphanum || c == '_' || c == '-' || c == ' '

/-- A place, with blanks around it, up to its closing bracket. -/
def placeStep? (cs : List Char) : Option Step :=
  let bare := cs.dropWhile fun c => c == ' ' || c == '\t'
  let (minus, digits) :=
    match bare with
    | '-' :: rest => (['-'], rest)
    | rest => ([], rest)
  let number := digits.takeWhile Char.isDigit
  let surplus := digits.dropWhile Char.isDigit
  if number.isEmpty || surplus.any fun c => c != ' ' && c != '\t' then none
  else (Whole.ofChars? 10 (minus ++ number)).map .place

/-- The steps behind the first name. -/
def furtherSteps? : Nat → List Char → Option (List Step)
  | _, [] => some []
  | 0, _ => none
  | fuel + 1, '.' :: rest =>
    match rest.takeWhile isNameChar with
    | [] => none
    | name => (furtherSteps? fuel (rest.dropWhile isNameChar)).map (.name (String.ofList name) :: ·)
  | fuel + 1, '[' :: rest => do
    let step ← placeStep? (rest.takeWhile (· != ']'))
    match rest.dropWhile (· != ']') with
    | ']' :: rest => return step :: (← furtherSteps? fuel rest)
    | _ => none
  | _ + 1, _ => none

/-- The steps of a path; none if the text is no path. -/
def ofText? (text : String) : Option (List Step) :=
  let cs := text.toList
  match cs.takeWhile isNameChar with
  | [] => none
  | name =>
    let rest := cs.dropWhile isNameChar
    (furtherSteps? rest.length rest).map (.name (String.ofList name) :: ·)

/-- The steps of a text; what is no path is one name. -/
def steps (text : String) : List Step := (ofText? text).getD [.name text]

/-- The place in a list of a length; none before the start of the list. -/
def place? (length : Nat) (place : Int) : Option Nat :=
  if 0 ≤ place then some place.toNat
  else if place.natAbs ≤ length then some (length - place.natAbs)
  else none

/-- A list with a value at a place, to which it grows if it is shorter. -/
def setPlace (items : List Tree) (place : Nat) (value : Tree) : List Tree :=
  (items ++ List.replicate (place + 1 - items.length) Tree.filler).set place value

/-- What lies below, with a value put at the end of the steps; none if a place lies before the
start of its list. -/
def put (value : Tree) : List Step → Option Tree → Option Tree
  | [], _ => some value
  | [.name name], below =>
    let (origin, entries) := Tree.tableParts below
    let key := Text.toLower name
    some (.table origin (insertEntry key (Tree.overlay (valueOf? key entries) value) entries))
  | .name name :: rest, below => do
    let (origin, entries) := Tree.tableParts below
    let key := Text.toLower name
    return .table origin (insertEntry key (← put value rest (valueOf? key entries)) entries)
  | .place place :: rest, below => do
    let (origin, items) := Tree.listParts below
    let place ← place? items.length place
    return .list origin (setPlace items place (← put value rest items[place]?))

end Path

namespace Tree

/-- The tree with a value put over it at a path. -/
def putAt (tree : Tree) (path : String) (value : Tree) : Option Tree :=
  Path.put value (Path.steps path) (some tree)

/-- The tree with the entries of a layer put over it, each at its path. -/
def putAll (tree : Tree) (entries : List (String × Tree)) : Option Tree :=
  entries.foldlM (fun tree entry => tree.putAt entry.1 entry.2) tree

end Tree

end SyncPods.Layers
