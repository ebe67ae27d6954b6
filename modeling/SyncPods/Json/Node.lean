import SyncPods.Json.Token

/-!
# The structure of a JSON text, with its faults in place

A text is taken apart whether or not it is JSON: a fault becomes a node, or the end of a list, at
the place where a reader going through the text from the start would meet it. So a reader that wants
only parts of a text still meets the first fault first, and one that passes over a value meets only
faults of its form.
-/

namespace SyncPods.Json

/-- How a list of items or members ends: by its closing mark, by being in memory, where its length
is known beforehand, or by a fault. -/
inductive Ending where
  | closed
  | counted
  | cut (read skipped : Fault)
deriving DecidableEq, Repr

mutual

/-- A value of a text. One that cannot be read says by which fault, and by which fault, if any,
passing over it fails. -/
inductive Node where
  | null
  | bool (value : Bool)
  | number (value : Number)
  | string (value : String)
  | array (items : Items)
  | object (members : Members)
  | unreadable (read : Fault) (skipped : Option Fault)

inductive Items where
  | stop (ending : Ending)
  | item (node : Node) (rest : Items)

/-- The members of an object. A name may be unreadable. -/
inductive Members where
  | stop (ending : Ending)
  | member (name : Except Fault String) (node : Node) (rest : Members)

end

instance : Inhabited Node := ⟨.null⟩

mutual

/-- The fault met in passing over a value. -/
def Node.skip : Node → Option Fault
  | .array items => items.skip
  | .object members => members.skip
  | .unreadable _ skipped => skipped
  | _ => none

def Items.skip : Items → Option Fault
  | .stop (.cut _ fault) => some fault
  | .stop _ => none
  | .item node rest => node.skip.or rest.skip

def Members.skip : Members → Option Fault
  | .stop (.cut _ fault) => some fault
  | .stop _ => none
  | .member _ node rest => node.skip.or rest.skip

end

/-- How deep arrays and objects may lie in each other to be read. -/
def depthLimit : Nat := 127

/-- A node at a depth, unreadable if that is beyond the limit. -/
def Node.within (depth : Nat) (node : Node) : Node :=
  if depth ≤ depthLimit then node else .unreadable .tooDeep node.skip

def Node.fault (fault : Fault) : Node := .unreadable fault (some fault)

def Ending.fault (fault : Fault) : Ending := .cut fault fault

mutual

/-- The value at the head of the tokens, and the tokens after it if it is whole. -/
def nodeFrom : Nat → Nat → List Token → Node × Option (List Token)
  | 0, _, _ => (.fault .endInValue, none)
  | _ + 1, _, [] => (.fault .endInValue, none)
  | fuel + 1, depth, token :: rest =>
    match token with
    | .null => (.null, some rest)
    | .bool b => (.bool b, some rest)
    | .number (some n) => (.number n, some rest)
    | .number none => (.unreadable .tooGreat none, some rest)
    | .string (.ok s) => (.string s, some rest)
    | .string (.error fault) => (.unreadable fault none, some rest)
    | .openBracket =>
      let (items, rest) :=
        match rest with
        | .closeBracket :: rest => (Items.stop .closed, some rest)
        | [] => (Items.stop (.fault .endInList), none)
        | rest => itemsFrom fuel (depth + 1) rest
      (Node.within (depth + 1) (.array items), rest)
    | .openBrace =>
      let (members, rest) :=
        match rest with
        | .closeBrace :: rest => (Members.stop .closed, some rest)
        | [] => (Members.stop (.fault .endInObject), none)
        | rest => membersFrom fuel (depth + 1) rest
      (Node.within (depth + 1) (.object members), rest)
    | .broken read skipped => (.unreadable read (some skipped), none)
    | .brokenString read skipped => (.unreadable read (some skipped), none)
    | _ => (.fault .noValue, none)

/-- The items at the head of the tokens, of which there is at least one. -/
def itemsFrom : Nat → Nat → List Token → Items × Option (List Token)
  | 0, _, _ => (.stop (.fault .endInList), none)
  | fuel + 1, depth, tokens =>
    let (node, rest) := nodeFrom fuel depth tokens
    match rest with
    | none => (.item node (.stop (.fault .endInList)), none)
    | some (.closeBracket :: rest) => (.item node (.stop .closed), some rest)
    | some (.comma :: .closeBracket :: _) =>
      let last := Node.unreadable .commaAtEnd (some .noValue)
      (.item node (.item last (.stop (.fault .endInList))), none)
    | some (.comma :: rest) =>
      let (items, rest) := itemsFrom fuel depth rest
      (.item node items, rest)
    | some [] => (.item node (.stop (.fault .endInList)), none)
    | some _ => (.item node (.stop (.fault .noListComma)), none)

/-- The members at the head of the tokens, of which there is at least one. -/
def membersFrom : Nat → Nat → List Token → Members × Option (List Token)
  | 0, _, _ => (.stop (.fault .endInObject), none)
  | fuel + 1, depth, tokens =>
    match tokens with
    | .string name :: .colon :: rest =>
      let (node, rest) := nodeFrom fuel depth rest
      match rest with
      | none => (.member name node (.stop (.fault .endInObject)), none)
      | some (.closeBrace :: rest) => (.member name node (.stop .closed), some rest)
      | some (.comma :: .closeBrace :: _) =>
        (.member name node (.stop (.cut .commaAtEnd .noName)), none)
      | some [.comma] => (.member name node (.stop (.cut .endInValue .endInObject)), none)
      | some (.comma :: rest) =>
        let (members, rest) := membersFrom fuel depth rest
        (.member name node members, rest)
      | some [] => (.member name node (.stop (.fault .endInObject)), none)
      | some _ => (.member name node (.stop (.fault .noObjectComma)), none)
    | [.string name] =>
      (.member name (.fault .endInObject) (.stop (.fault .endInObject)), none)
    | .string name :: _ =>
      (.member name (.fault .noColon) (.stop (.fault .noColon)), none)
    | .brokenString read skipped :: _ => (.stop (.cut read skipped), none)
    | _ => (.stop (.fault .noName), none)

end

/-- A text as a value and whether anything but blanks follows it. -/
structure Document where
  root : Node
  surplus : Bool

def Document.ofText (text : String) : Document :=
  let ts := tokens text
  let (root, rest) := nodeFrom (2 * ts.length + 2) 0 ts
  ⟨root, !(rest.getD []).isEmpty⟩

mutual

/-- A value in memory, as a node. -/
def Node.ofValue : Value → Node
  | .null => .null
  | .bool b => .bool b
  | .number n => .number n
  | .string s => .string s
  | .array items => .array (Items.ofValues items)
  | .object members => .object (Members.ofValues members)

def Items.ofValues : List Value → Items
  | [] => .stop .counted
  | value :: rest => .item (Node.ofValue value) (Items.ofValues rest)

def Members.ofValues : List (String × Value) → Members
  | [] => .stop .counted
  | (name, value) :: rest => .member (.ok name) (Node.ofValue value) (Members.ofValues rest)

end

mutual

/-- The value of a node, or the first fault in reading it. -/
def Node.value : Node → Except Fault Value
  | .null => .ok .null
  | .bool b => .ok (.bool b)
  | .number n => .ok (.number n)
  | .string s => .ok (.string s)
  | .array items => do return .array (← items.values)
  | .object members => do return .object (← members.values [])
  | .unreadable fault _ => .error fault

def Items.values : Items → Except Fault (List Value)
  | .stop (.cut fault _) => .error fault
  | .stop _ => .ok []
  | .item node rest => do
    let value ← node.value
    return value :: (← rest.values)

/-- The members read after those that are given; of one name the last counts. -/
def Members.values (sofar : List (String × Value)) :
    Members → Except Fault (List (String × Value))
  | .stop (.cut fault _) => .error fault
  | .stop _ => .ok sofar
  | .member (.error fault) _ _ => .error fault
  | .member (.ok name) node rest => do
    let value ← node.value
    rest.values (insertEntry name value sofar)

end

def Value.ofText (text : String) : Except Fault Value := do
  let document := Document.ofText text
  let value ← document.root.value
  if document.surplus then .error .surplus else return value

end SyncPods.Json
