import SyncPods.Json.Value

/-!
# Writing JSON

A value as compact text, and as text with one item or member a line.
-/

namespace SyncPods.Json

def hexDigit (n : Nat) : Char :=
  if n < 10 then Char.ofNat (n + '0'.toNat) else Char.ofNat (n - 10 + 'a'.toNat)

/-- A character inside of a string: quotation marks, backslashes and controls are escaped. -/
def stringChar (c : Char) : List Char :=
  match c with
  | '"' => ['\\', '"']
  | '\\' => ['\\', '\\']
  | '\x08' => ['\\', 'b']
  | '\x0c' => ['\\', 'f']
  | '\n' => ['\\', 'n']
  | '\r' => ['\\', 'r']
  | '\t' => ['\\', 't']
  | c =>
    if c.toNat < 0x20 then
      ['\\', 'u', '0', '0', hexDigit (c.toNat / 16), hexDigit (c.toNat % 16)]
    else [c]

def stringText (s : String) : String :=
  String.ofList ('"' :: s.toList.flatMap stringChar ++ ['"'])

namespace Value

mutual

def compact : Value → String
  | .null => "null"
  | .bool true => "true"
  | .bool false => "false"
  | .number n => n.text
  | .string s => stringText s
  | .array items => "[" ++ ",".intercalate (compactItems items) ++ "]"
  | .object members => "\x7b" ++ ",".intercalate (compactMembers members) ++ "\x7d"

def compactItems : List Value → List String
  | [] => []
  | value :: rest => value.compact :: compactItems rest

def compactMembers : List (String × Value) → List String
  | [] => []
  | (name, value) :: rest => (stringText name ++ ":" ++ value.compact) :: compactMembers rest

end

def indent (depth : Nat) : String :=
  "\n" ++ String.ofList (List.replicate (2 * depth) ' ')

/-- Lines between two marks. -/
def block (opening closing : String) (depth : Nat) (lines : List String) : String :=
  if lines.isEmpty then opening ++ closing
  else
    opening ++ indent (depth + 1) ++ ("," ++ indent (depth + 1)).intercalate lines ++
      indent depth ++ closing

mutual

/-- The text of a value at a depth, with each item and member on a line of its own. -/
def prettyAt (depth : Nat) : Value → String
  | .null => "null"
  | .bool true => "true"
  | .bool false => "false"
  | .number n => n.text
  | .string s => stringText s
  | .array items => block "[" "]" depth (prettyItems (depth + 1) items)
  | .object members => block "\x7b" "\x7d" depth (prettyMembers (depth + 1) members)

def prettyItems (depth : Nat) : List Value → List String
  | [] => []
  | value :: rest => value.prettyAt depth :: prettyItems depth rest

def prettyMembers (depth : Nat) : List (String × Value) → List String
  | [] => []
  | (name, value) :: rest =>
    (stringText name ++ ": " ++ value.prettyAt depth) :: prettyMembers depth rest

end

/-- The text of a value with a line for each item and member. -/
def pretty (v : Value) : String := v.prettyAt 0

end Value

end SyncPods.Json
