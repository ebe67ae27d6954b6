import SyncPods.Decimal.Whole
import SyncPods.Decimal.Double

/-!
# Nodes of a YAML document

A plain scalar stands for nothing, a truth value, a whole number or a number with a point or an
exponent if its text is one of theirs, and for its text otherwise. No key of a map comes twice.
-/

namespace SyncPods.Yaml

inductive Node where
  | null
  | bool (value : Bool)
  | integer (value : Int)
  /-- A number in double precision, by its text. -/
  | real (text : String)
  | text (value : String)
  | list (items : List Node)
  | map (entries : List (Node × Node))
deriving Repr, Inhabited

mutual

def Node.same : Node → Node → Bool
  | .null, .null => true
  | .bool b, .bool b' => b == b'
  | .integer n, .integer n' => n == n'
  | .real s, .real s' => s == s'
  | .text s, .text s' => s == s'
  | .list items, .list items' => Node.sameItems items items'
  | .map entries, .map entries' => Node.sameEntries entries entries'
  | _, _ => false

def Node.sameItems : List Node → List Node → Bool
  | [], [] => true
  | node :: rest, node' :: rest' => Node.same node node' && Node.sameItems rest rest'
  | _, _ => false

def Node.sameEntries : List (Node × Node) → List (Node × Node) → Bool
  | [], [] => true
  | (key, value) :: rest, (key', value') :: rest' =>
    Node.same key key' && Node.same value value' && Node.sameEntries rest rest'
  | _, _ => false

end

instance : BEq Node := ⟨Node.same⟩

/-- The names of the infinities and of what is not a number. -/
def realNames : List String :=
  [".inf", ".Inf", ".INF", "+.inf", "+.Inf", "+.INF", "-.inf", "-.Inf", "-.INF", ".nan", ".NaN",
    ".NAN"]

/-- The whole number that a text is behind a mark of its base, or behind a sign. -/
def markedInteger? (text : String) : Option Int :=
  match text.toList with
  | '0' :: 'x' :: rest => Whole.ofChars? 16 rest
  | '0' :: 'o' :: rest => Whole.ofChars? 8 rest
  | '+' :: rest => Whole.ofChars? 10 rest
  | _ => none

namespace Node

def ofPlain (text : String) : Node :=
  match markedInteger? text with
  | some n => .integer n
  | none =>
    if text ∈ ["", "~", "null"] then .null
    else if text = "true" then .bool true
    else if text = "false" then .bool false
    else
      match Whole.ofText? text with
      | some n => .integer n
      | none =>
        if text ∈ realNames ∨ (Double.ofText? text).isSome then .real text else .text text

/-- The entries with one more; none if the key is there already. -/
def addEntry? (entries : List (Node × Node)) (key value : Node) : Option (List (Node × Node)) :=
  if entries.any (·.1 == key) then none else some (entries ++ [(key, value)])

end Node

end SyncPods.Yaml
