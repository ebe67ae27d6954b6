import SyncPods.Decimal.Whole
import SyncPods.Yaml.Cursor

/-!
# Scalars of a YAML text

A plain scalar is made of words; a quoted one goes to its closing quotation mark. In both a line
break counts as a blank, and further line breaks count as themselves.
-/

namespace SyncPods.Yaml

/-- What lies between two words: blanks, or line breaks of which the first is not counted. -/
inductive Gap where
  | blanks (cs : List Char)
  | breaks (further : Nat)
deriving DecidableEq, Repr

def Gap.text : Gap → List Char
  | .blanks cs => cs
  | .breaks 0 => [' ']
  | .breaks (n + 1) => List.replicate (n + 1) '\n'

/-- The gap at the head of the characters, behind what of it is known. No tab may stand before the
margin of a line that holds something. -/
def gapFrom (margin : Nat) (sofar : Gap) (line column : Nat) : List Char → Option (Gap × Cursor)
  | '\n' :: rest =>
    match sofar with
    | .blanks _ => gapFrom margin (.breaks 0) (line + 1) 0 rest
    | .breaks n => gapFrom margin (.breaks (n + 1)) (line + 1) 0 rest
  | ' ' :: rest =>
    match sofar with
    | .blanks cs => gapFrom margin (.blanks (cs ++ [' '])) line (column + 1) rest
    | .breaks n => gapFrom margin (.breaks n) line (column + 1) rest
  | '\t' :: rest =>
    match sofar with
    | .blanks cs => gapFrom margin (.blanks (cs ++ ['\t'])) line (column + 1) rest
    | .breaks n =>
      if column < margin && !restIsVoid rest then none
      else gapFrom margin (.breaks n) line (column + 1) rest
  | rest => some (sofar, ⟨rest, line, column⟩)

/-- Whether a plain scalar ends before a character and those after it. -/
def endsPlain (inFlow : Bool) (c : Char) (rest : List Char) : Bool :=
  match c with
  | ':' => isApart rest || (inFlow && rest.head?.any isFlowMark)
  | c => inFlow && isFlowMark c

/-- The word at the head of the characters. -/
def plainWord (inFlow : Bool) : List Char → List Char
  | [] => []
  | c :: rest =>
    if isSpace c || c == '\n' || endsPlain inFlow c rest then []
    else c :: plainWord inFlow rest

/-- The words of a plain scalar from a place on, with the gap between them and the word before that
ends at another place, and the end of the last word. In a block no further word stands before the
margin. -/
def plainWords (inFlow : Bool) (margin : Nat) :
    Nat → Cursor → Gap → Cursor → Option (List Char × Cursor)
  | 0, before, _, _ => some ([], before)
  | fuel + 1, before, gap, cur =>
    if cur.atEnd || cur.rest.head? == some '#' then some ([], before)
    else if inFlow && cur.rest.head? == some '-' && (cur.rest.drop 1).head?.any isFlowMark then none
    else
      match plainWord inFlow cur.rest with
      | [] => some ([], before)
      | word => do
        let after := cur.past word.length
        let (next, cur) ← gapFrom margin (.blanks []) after.line after.column after.rest
        if !inFlow && cur.column < margin then return (gap.text ++ word, after)
        let (more, last) ← plainWords inFlow margin fuel after next cur
        return (gap.text ++ word ++ more, last)

def plain (inFlow : Bool) (margin : Nat) (cur : Cursor) : Option (String × Cursor) := do
  let (cs, after) ← plainWords inFlow margin (cur.rest.length + 1) cur (.blanks []) cur
  return (String.ofList cs, after)

/-- The character that an escape of one letter stands for. -/
def escaped? : Char → Option Char
  | '0' => some '\x00'
  | 'a' => some '\x07'
  | 'b' => some '\x08'
  | 't' => some '\t'
  | '\t' => some '\t'
  | 'n' => some '\n'
  | 'v' => some '\x0b'
  | 'f' => some '\x0c'
  | 'r' => some '\r'
  | 'e' => some '\x1b'
  | ' ' => some ' '
  | '"' => some '"'
  | '/' => some '/'
  | '\\' => some '\\'
  | 'N' => some '\u0085'
  | '_' => some '\u00a0'
  | 'L' => some '\u2028'
  | 'P' => some '\u2029'
  | _ => none

/-- The number of hexadecimal digits of an escape by code point. -/
def codeLength? : Char → Option Nat
  | 'x' => some 2
  | 'u' => some 4
  | 'U' => some 8
  | _ => none

/-- The character of a code point written in hexadecimal digits. -/
def ofHex? (digits : List Char) : Option Char := do
  let n ← Whole.digits? 16 digits
  if n.isValidChar then return Char.ofNat n else none

/-- The escape at the head of the characters, without its backslash, and its length. -/
def escape? : List Char → Option (Char × Nat)
  | [] => none
  | c :: rest =>
    match codeLength? c with
    | some n => if (rest.take n).length = n then (ofHex? (rest.take n)).map (·, n + 1) else none
    | none => (escaped? c).map (·, 1)

/-- The rest of a quoted scalar behind its opening quotation mark. No line may start before the
margin. -/
def quotedFrom (double : Bool) (margin : Nat) : Nat → Cursor → Option (List Char × Cursor)
  | 0, _ => none
  | fuel + 1, cur => do
    guard (!cur.atEnd && margin ≤ cur.column)
    match cur.rest with
    | [] => none
    | c :: rest =>
      if isSpace c || c == '\n' then
        let (gap, after) ← gapFrom margin (.blanks []) cur.line cur.column cur.rest
        let (more, after) ← quotedFrom double margin fuel after
        return (gap.text ++ more, after)
      else if !double && c == '\'' then
        if rest.head? == some '\'' then
          let (more, after) ← quotedFrom double margin fuel (cur.past 2)
          return ('\'' :: more, after)
        else return ([], cur.past 1)
      else if double && c == '"' then return ([], cur.past 1)
      else if double && c == '\\' then
        if rest.head? == some '\n' then
          let (gap, after) ← gapFrom margin (.breaks 0) (cur.line + 1) 0 (rest.drop 1)
          let (more, after) ← quotedFrom double margin fuel after
          return ((if gap = .breaks 0 then [] else gap.text) ++ more, after)
        else
          let (escaped, length) ← escape? rest
          let (more, after) ← quotedFrom double margin fuel (cur.past (length + 1))
          return (escaped :: more, after)
      else
        let (more, after) ← quotedFrom double margin fuel (cur.past 1)
        return (c :: more, after)

/-- A quoted scalar, from its opening quotation mark on. -/
def quotedScalar (margin : Nat) (cur : Cursor) : Option (String × Cursor) := do
  let double := cur.rest.head? == some '"'
  let (cs, after) ← quotedFrom double margin (cur.rest.length + 1) (cur.past 1)
  return (String.ofList cs, after)

end SyncPods.Yaml
