import SyncPods.Yaml.Node
import SyncPods.Yaml.Scalar

/-!
# YAML documents

The document of a text, made of scalars and of lists and maps in block style, by columns, and in
flow style, in brackets. Aliases, tags, block scalars, directives and keys behind a question mark
are not read.
-/

namespace SyncPods.Yaml

/-- Characters that no plain scalar starts with. -/
def isReserved (c : Char) : Bool := c ∈ ['%', '@', '`', '&', '*', '!']

/-- Whether a value mark is here in a flow. It may touch what follows it behind a quoted scalar or
a bracket. -/
def atFlowValue (touching : Bool) (cur : Cursor) : Bool :=
  match cur.rest with
  | ':' :: rest => touching || isApart rest || rest.head?.any isFlowMark
  | _ => false

/-- Whether the character here is the given one. -/
def Cursor.starts (cur : Cursor) (c : Char) : Bool := cur.rest.head? == some c

/-- Where parts of the text may stand on lines behind the first. -/
structure Margin where
  /-- The least column of a plain scalar. -/
  text : Nat
  /-- The least column of any other part. -/
  mark : Nat

/-- The margin of what belongs to a node at a column. -/
def Margin.behind (column : Nat) : Margin := ⟨column + 1, column + 1⟩

/-- The margin of a key at a column, and of a scalar on the line of the mark of its list item. -/
def Margin.at (column : Nat) : Margin := ⟨column + 1, column⟩

/-- The margin behind a plain scalar in a flow, up to which marks may come nearer to the start of
the line. -/
def Margin.behindPlain (m : Margin) : Margin := ⟨m.text, m.text - 1⟩

/-- A node in a flow, the place behind it and the margin there. -/
structure FlowPart where
  node : Node
  after : Cursor
  margin : Margin
  /-- Whether a value mark behind it may touch what follows. -/
  touching : Bool

/-- The next part of a flow. -/
def Cursor.skipInFlow (cur : Cursor) (margin : Margin) : Option Cursor := do
  let next ← cur.skip margin.mark
  if next.atEnd || next.column < margin.mark then none else return next

def quotedInFlow (margin : Margin) (cur : Cursor) : Option FlowPart := do
  let (text, after) ← quotedScalar 0 cur
  return ⟨.text text, after, margin, true⟩

def plainInFlow (margin : Margin) (cur : Cursor) : Option FlowPart := do
  guard (margin.text ≤ cur.column && !cur.rest.head?.any isReserved)
  let (text, after) ← plain true 0 cur
  return ⟨.ofPlain text, after, margin.behindPlain, false⟩

mutual

/-- The node of a flow that starts here. -/
def flowNode : Nat → Margin → Cursor → Option FlowPart
  | 0, _, _ => none
  | fuel + 1, margin, cur =>
    match cur.rest with
    | [] => none
    | c :: rest =>
      if c == '[' then do
        let (items, after, margin) ← flowItems fuel margin (cur.past 1)
        return ⟨.list items, after, margin, true⟩
      else if c == '{' then do
        let (entries, after, margin) ← flowEntries fuel margin [] (cur.past 1)
        return ⟨.map entries, after, margin, true⟩
      else if c == '"' || c == '\'' then quotedInFlow margin cur
      else if isFlowMark c || ((c == '-' || c == '?') && isApart rest) then none
      else plainInFlow margin cur

/-- The items of a list behind its opening bracket or a comma. -/
def flowItems : Nat → Margin → Cursor → Option (List Node × Cursor × Margin)
  | 0, _, _ => none
  | fuel + 1, margin, cur => do
    let cur ← cur.skipInFlow margin
    if cur.starts ']' then return ([], cur.past 1, margin)
    let (item, after, margin) ← flowItem fuel margin cur
    if after.starts ']' then return ([item], after.past 1, margin)
    guard (after.starts ',')
    let (items, after, margin) ← flowItems fuel margin (after.past 1)
    return (item :: items, after, margin)

/-- An item of a list, which may be a map of one entry, and the next part behind it. -/
def flowItem : Nat → Margin → Cursor → Option (Node × Cursor × Margin)
  | 0, _, _ => none
  | fuel + 1, margin, cur => do
    let key ←
      if atFlowValue false cur then pure ⟨.null, cur, margin, false⟩ else flowNode fuel margin cur
    let next ← key.after.skipInFlow key.margin
    if atFlowValue key.touching next then
      guard (next.line = cur.line)
      let (value, after, margin) ← flowValue fuel key.margin (next.past 1)
      return (.map [(key.node, value)], after, margin)
    else return (key.node, next, key.margin)

/-- The value behind a value mark, and the next part behind it. -/
def flowValue : Nat → Margin → Cursor → Option (Node × Cursor × Margin)
  | 0, _, _ => none
  | fuel + 1, margin, cur => do
    let next ← cur.skipInFlow margin
    if next.starts ',' || next.starts ']' || next.starts '}' then return (.null, next, margin)
    let value ← flowNode fuel margin next
    let after ← value.after.skipInFlow value.margin
    return (value.node, after, value.margin)

/-- The entries of a map behind its opening bracket or a comma, after those that are given. -/
def flowEntries : Nat → Margin → List (Node × Node) → Cursor →
    Option (List (Node × Node) × Cursor × Margin)
  | 0, _, _, _ => none
  | fuel + 1, margin, entries, cur => do
    let cur ← cur.skipInFlow margin
    if cur.starts '}' then return (entries, cur.past 1, margin)
    let key ←
      if atFlowValue false cur then pure ⟨.null, cur, margin, false⟩ else flowNode fuel margin cur
    let next ← key.after.skipInFlow key.margin
    let (value, after, margin) ←
      if atFlowValue key.touching next then flowValue fuel key.margin (next.past 1)
      else pure (.null, next, key.margin)
    let entries ← Node.addEntry? entries key.node value
    if after.starts '}' then return (entries, after.past 1, margin)
    guard (after.starts ',')
    flowEntries fuel margin entries (after.past 1)

end

/-- A node of one part: a scalar, or a list or map in flow style. -/
def inlineNode (fuel : Nat) (margin : Margin) (cur : Cursor) : Option (Node × Cursor) :=
  match cur.rest with
  | [] => none
  | c :: rest =>
    if c == '[' || c == '{' then do
      let part ← flowNode fuel margin cur
      return (part.node, part.after)
    else if c == '"' || c == '\'' then do
      let (text, after) ← quotedScalar margin.mark cur
      return (.text text, after)
    else if isReserved c || isFlowMark c || c == '|' || c == '>' || (c == '?' && isApart rest) then
      none
    else do
      let (text, after) ← plain false margin.text cur
      return (.ofPlain text, after)

/-- The greatest length of a key and of the blanks behind it. -/
def maxKeyLength : Nat := 1024

def Cursor.pastBlanks (cur : Cursor) : Cursor :=
  cur.past (cur.rest.takeWhile isSpace).length

/-- The place of the value mark, if what lies between two places is a key. -/
def keyEnd? (start after : Cursor) : Option Cursor :=
  let mark := after.pastBlanks
  if mark.line = start.line && mark.atMark ':' && mark.column ≤ start.column + maxKeyLength then
    some mark
  else none

/-- Behind a value mark. A tab may follow it at once only before a quotation mark or a bracket. -/
def Cursor.pastValueMark (cur : Cursor) : Option Cursor :=
  let after := cur.past 1
  let blanks := after.rest.takeWhile isSpace
  let next := (after.rest.drop blanks.length).head?
  if blanks.head? == some '\t' && ' ' ∉ blanks &&
      next.any (fun c => c.isAlphanum || c == '_' || c == '-') then none
  else some after

mutual

/-- The node of a block that starts here. Where nothing precedes it on the line but marks of list
items, it may be a list or a map. -/
def blockNode : Nat → Margin → Bool → Cursor → Option (Node × Cursor)
  | 0, _, _, _ => none
  | fuel + 1, margin, fresh, cur => do
    if cur.atMark '-' then
      guard fresh
      let (items, after) ← blockItems fuel cur.column cur
      return (.list items, after)
    else if cur.atMark ':' then
      guard fresh
      let (entries, after) ← blockEntries fuel cur.column [] .null cur
      return (.map entries, after)
    else
      let (node, after) ← inlineNode fuel margin cur
      match keyEnd? cur after with
      | some mark =>
        guard fresh
        let (entries, after) ← blockEntries fuel cur.column [] node mark
        return (.map entries, after)
      | none => return (node, after)

/-- The items of a list at a column, from the mark of one on. -/
def blockItems : Nat → Nat → Cursor → Option (List Node × Cursor)
  | 0, _, _ => none
  | fuel + 1, column, cur => do
    let next ← (cur.past 1).skip (column + 1)
    let (item, after) ←
      if next.atEnd || (next.line ≠ cur.line && next.column ≤ column : Bool) then
        pure (.null, next)
      else
        let touches := next.line = cur.line && !next.rest.head?.any isFlowMark
        blockNode fuel (if touches then .at column else .behind column) true next
    let next ← after.skip column
    if next.atEnd || next.column < column then return ([item], next)
    guard (next.column = column)
    if next.atMark '-' then
      let (items, after) ← blockItems fuel column next
      return (item :: items, after)
    else return ([item], next)

/-- The entries of a map at a column after those that are given, from the value mark of a key on. -/
def blockEntries : Nat → Nat → List (Node × Node) → Node → Cursor →
    Option (List (Node × Node) × Cursor)
  | 0, _, _, _, _ => none
  | fuel + 1, column, entries, key, cur => do
    let next ← (← cur.pastValueMark).skip (column + 1)
    let (value, after) ←
      if next.atEnd then pure (.null, next)
      else if next.line = cur.line then blockNode fuel (.behind column) false next
      else if column < next.column then blockNode fuel (.behind column) true next
      else if next.column = column && next.atMark '-' then do
        let (items, after) ← blockItems fuel column next
        pure (.list items, after)
      else pure (.null, next)
    let entries ← Node.addEntry? entries key value
    let next ← after.skip column
    if next.atEnd || next.column < column then return (entries, next)
    guard (next.column = column && !next.atMark '-')
    if next.atMark ':' then blockEntries fuel column entries .null next
    else
      let (key, after) ← inlineNode fuel (.at column) next
      blockEntries fuel column entries key (← keyEnd? next after)

end

/-- Behind the marks that end documents. -/
def pastEndMarks : Nat → Cursor → Option Cursor
  | 0, _ => none
  | fuel + 1, cur => do
    let cur ← cur.skip 0
    if cur.column = 0 && cur.atEnd && cur.starts '.' then
      let after := cur.past 3
      guard (restIsVoid after.rest)
      pastEndMarks fuel after
    else return cur

/-- What a text holds. -/
inductive Document where
  /-- Nothing but blanks and comments. -/
  | void
  | node (root : Node)
deriving BEq, Repr, Inhabited

/-- The document from here on, of which nothing is left but perhaps the mark before its node. -/
def documentFrom (fuel : Nat) (cur : Cursor) : Option Document := do
  let marked := cur.atEnd && cur.starts '-'
  let start := if marked then cur.past 3 else cur
  let next ← start.skip 0
  let (root, after) ←
    if next.atEnd then pure (.null, next)
    else blockNode fuel ⟨0, 0⟩ (!marked || next.line ≠ cur.line) next
  let next ← after.skip 0
  guard (next.atEnd && !next.starts '-')
  guard (← pastEndMarks fuel next).rest.isEmpty
  return .node root

/-- The document of a text; none if the text is malformed or holds several. -/
def Document.ofText? (text : String) : Option Document := do
  let start := Cursor.ofText text
  let fuel := 4 * start.rest.length + 8
  let cur ← pastEndMarks fuel start
  if cur.rest.isEmpty then return .void else documentFrom fuel cur

end SyncPods.Yaml
