/-!
# Places in a YAML text

A text is read from its start on, and what is read next depends on the column and the line where it
stands. Between the parts of a text lie blanks, line breaks and comments.
-/

namespace SyncPods.Yaml

/-- A place in a text. -/
structure Cursor where
  rest : List Char
  line : Nat
  column : Nat
deriving DecidableEq, Repr

/-- A blank within a line. -/
def isSpace (c : Char) : Bool := c == ' ' || c == '\t'

/-- Marks between the parts of a flow list or a flow map. -/
def isFlowMark (c : Char) : Bool := c ∈ [',', '[', ']', '{', '}']

/-- Whether a mark before these characters stands apart from what follows. -/
def isApart : List Char → Bool
  | [] => true
  | c :: _ => isSpace c || c == '\n'

/-- The characters with every line break as one character. -/
def unifyBreaks : List Char → List Char
  | '\r' :: '\n' :: rest => '\n' :: unifyBreaks rest
  | '\r' :: rest => '\n' :: unifyBreaks rest
  | c :: rest => c :: unifyBreaks rest
  | [] => []

/-- Whether the rest of a line holds nothing, or only a comment. -/
def restIsVoid (cs : List Char) : Bool :=
  match cs.dropWhile isSpace with
  | [] => true
  | c :: _ => c == '\n' || c == '#'

/-- Whether the characters are a line that starts or ends a document, up to what may follow. -/
def isDocumentMark : List Char → Bool
  | '-' :: '-' :: '-' :: rest => isApart rest
  | '.' :: '.' :: '.' :: rest => isApart rest
  | _ => false

namespace Cursor

/-- The start of a text, which ends before its first null character. -/
def ofText (text : String) : Cursor :=
  ⟨unifyBreaks (text.toList.takeWhile (· != '\x00')), 0, 0⟩

/-- Behind characters of the same line. -/
def past (cur : Cursor) (count : Nat) : Cursor :=
  ⟨cur.rest.drop count, cur.line, cur.column + count⟩

def atEnd (cur : Cursor) : Bool :=
  cur.rest.isEmpty || (cur.column == 0 && isDocumentMark cur.rest)

def atMark (cur : Cursor) (mark : Char) : Bool :=
  match cur.rest with
  | c :: rest => c == mark && isApart rest
  | [] => false

/-- Behind the blanks, line breaks and comments at the head of the characters. Only what is apart
from a part of the text before it is a comment. No tab may stand before the margin of a line that
holds something. -/
def skipFrom (margin : Nat) (inComment apart leading : Bool) (line column : Nat) :
    List Char → Option Cursor
  | [] => some ⟨[], line, column⟩
  | c :: rest =>
    if c == '\n' then skipFrom margin false true true (line + 1) 0 rest
    else if inComment then skipFrom margin true apart leading line (column + 1) rest
    else if c == ' ' then skipFrom margin false true leading line (column + 1) rest
    else if c == '\t' then
      if leading && column < margin && !restIsVoid rest then none
      else skipFrom margin false true leading line (column + 1) rest
    else if c == '#' then
      if apart then skipFrom margin true apart leading line (column + 1) rest else none
    else some ⟨c :: rest, line, column⟩

/-- The next part of the text. -/
def skip (cur : Cursor) (margin : Nat) : Option Cursor :=
  skipFrom margin false (cur.column == 0) (cur.column == 0) cur.line cur.column cur.rest

end Cursor

end SyncPods.Yaml
