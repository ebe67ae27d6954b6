import SyncPods.Json.Node

/-!
# The grammar of JSON texts

Which texts are JSON, said without the reader: a value is a word, a number, a string, or a list of
values or members between its marks, with any blanks around every part. `Spelled` ties each text to
the node that stands for its value. That a reader takes every such text for that node is shown
elsewhere.
-/

namespace SyncPods.Json

/-! ## Strings -/

/-- A piece of a string: a character that stands for itself, a short escape, or the code of a
16-bit unit. -/
inductive Piece.Spelled : Piece → List Char → Prop
  | plain {c : Char} (printed : 0x20 ≤ c.toNat) (notMark : c ≠ '"') (notEscape : c ≠ '\\') :
      Spelled (.char c) [c]
  | short {letter c : Char} (means : shortEscape? letter = some c) :
      Spelled (.char c) ['\\', letter]
  | code {a b c d : Char} {i j k l : Nat} (first : hexValue? a = some i)
      (second : hexValue? b = some j) (third : hexValue? c = some k)
      (fourth : hexValue? d = some l) :
      Spelled (.unit (((i * 16 + j) * 16 + k) * 16 + l)) ['\\', 'u', a, b, c, d]

/-- The pieces of a string, one behind the other. -/
inductive PiecesSpelled : List Piece → List Char → Prop
  | nil : PiecesSpelled [] []
  | cons {piece : Piece} {pieces : List Piece} {cs rest : List Char}
      (first : piece.Spelled cs) (others : PiecesSpelled pieces rest) :
      PiecesSpelled (piece :: pieces) (cs ++ rest)

/-- The text that pieces stand for. -/
def stringOf (pieces : List Piece) : Except Fault String :=
  (pieceChars false pieces).map String.ofList

/-- The name of a member in quotation marks, with blanks around it. -/
inductive NameSpelled : Except Fault String → List Char → Prop
  | quoted {pieces : List Piece} {cs : List Char} (spelled : PiecesSpelled pieces cs) :
      NameSpelled (stringOf pieces) ('"' :: cs ++ ['"'])
  | blankBefore {name : Except Fault String} {c : Char} {cs : List Char}
      (blank : isSpace c = true) (spelled : NameSpelled name cs) : NameSpelled name (c :: cs)
  | blankAfter {name : Except Fault String} {c : Char} {cs : List Char}
      (blank : isSpace c = true) (spelled : NameSpelled name cs) : NameSpelled name (cs ++ [c])

/-! ## Numbers -/

def AreDigits (cs : List Char) : Prop := cs ≠ [] ∧ ∀ c ∈ cs, c.isDigit = true

/-- Digits with no zero in front of others. -/
def AreWhole (cs : List Char) : Prop := AreDigits cs ∧ ∀ c rest, cs ≠ '0' :: c :: rest

inductive FractionSpelled : List Char → List Char → Prop
  | absent : FractionSpelled [] []
  | present {digits : List Char} (areDigits : AreDigits digits) :
      FractionSpelled digits ('.' :: digits)

inductive ExponentSpelled : Option (Bool × List Char) → List Char → Prop
  | absent : ExponentSpelled none []
  | unsigned {mark : Char} {digits : List Char} (isMark : mark = 'e' ∨ mark = 'E')
      (areDigits : AreDigits digits) : ExponentSpelled (some (false, digits)) (mark :: digits)
  | positive {mark : Char} {digits : List Char} (isMark : mark = 'e' ∨ mark = 'E')
      (areDigits : AreDigits digits) :
      ExponentSpelled (some (false, digits)) (mark :: '+' :: digits)
  | negative {mark : Char} {digits : List Char} (isMark : mark = 'e' ∨ mark = 'E')
      (areDigits : AreDigits digits) :
      ExponentSpelled (some (true, digits)) (mark :: '-' :: digits)

inductive NumberText.Spelled : NumberText → List Char → Prop
  | positive {whole fraction cs ds : List Char} {exponent : Option (Bool × List Char)}
      (areWhole : AreWhole whole) (fractionSpelled : FractionSpelled fraction cs)
      (exponentSpelled : ExponentSpelled exponent ds) :
      Spelled ⟨false, whole, fraction, exponent⟩ (whole ++ (cs ++ ds))
  | negative {whole fraction cs ds : List Char} {exponent : Option (Bool × List Char)}
      (areWhole : AreWhole whole) (fractionSpelled : FractionSpelled fraction cs)
      (exponentSpelled : ExponentSpelled exponent ds) :
      Spelled ⟨true, whole, fraction, exponent⟩ ('-' :: (whole ++ (cs ++ ds)))

/-! ## Values -/

/-- The items of a list that has its closing mark. -/
def Items.closed (nodes : List Node) : Items := nodes.foldr .item (.stop .closed)

/-- The members of an object that has its closing mark. -/
def Members.closed (members : List (Except Fault String × Node)) : Members :=
  members.foldr (fun m rest => .member m.1 m.2 rest) (.stop .closed)

/-- A number, which cannot be read if it is beyond double precision. -/
def Node.ofNumber : Option Number → Node
  | some n => .number n
  | none => .unreadable .tooGreat none

/-- A string, which cannot be read if half of a surrogate pair is missing. -/
def Node.ofString : Except Fault String → Node
  | .ok s => .string s
  | .error fault => .unreadable fault none

/-- A member of an object and its spelling on both sides of the colon. -/
structure MemberSpelling where
  name : Except Fault String
  node : Node
  label : List Char
  text : List Char

namespace MemberSpelling

def member (m : MemberSpelling) : Except Fault String × Node := (m.name, m.node)

def chars (m : MemberSpelling) : List Char := m.label ++ ':' :: m.text

end MemberSpelling

/-- The texts of a node that lies at a depth. -/
inductive Spelled : Nat → Node → List Char → Prop
  | null {depth : Nat} : Spelled depth .null ['n', 'u', 'l', 'l']
  | true {depth : Nat} : Spelled depth (.bool true) ['t', 'r', 'u', 'e']
  | false {depth : Nat} : Spelled depth (.bool false) ['f', 'a', 'l', 's', 'e']
  | number {depth : Nat} {t : NumberText} {cs : List Char} (spelled : t.Spelled cs) :
      Spelled depth (.ofNumber t.value?) cs
  | string {depth : Nat} {pieces : List Piece} {cs : List Char}
      (spelled : PiecesSpelled pieces cs) :
      Spelled depth (.ofString (stringOf pieces)) ('"' :: cs ++ ['"'])
  | noItems {depth : Nat} {blanks : List Char} (areBlank : ∀ c ∈ blanks, isSpace c = true) :
      Spelled depth (.within (depth + 1) (.array (.closed []))) ('[' :: blanks ++ [']'])
  | array {depth : Nat} {items : List (Node × List Char)} (nonempty : items ≠ [])
      (spelled : ∀ item ∈ items, Spelled (depth + 1) item.1 item.2) :
      Spelled depth (.within (depth + 1) (.array (.closed (items.map (·.1)))))
        ('[' :: List.intercalate [','] (items.map (·.2)) ++ [']'])
  | noMembers {depth : Nat} {blanks : List Char} (areBlank : ∀ c ∈ blanks, isSpace c = true) :
      Spelled depth (.within (depth + 1) (.object (.closed []))) ('{' :: blanks ++ ['}'])
  | object {depth : Nat} {members : List MemberSpelling} (nonempty : members ≠ [])
      (named : ∀ m ∈ members, NameSpelled m.name m.label)
      (spelled : ∀ m ∈ members, Spelled (depth + 1) m.node m.text) :
      Spelled depth (.within (depth + 1) (.object (.closed (members.map MemberSpelling.member))))
        ('{' :: List.intercalate [','] (members.map MemberSpelling.chars) ++ ['}'])
  | blankBefore {depth : Nat} {node : Node} {c : Char} {cs : List Char}
      (blank : isSpace c = true) (spelled : Spelled depth node cs) : Spelled depth node (c :: cs)
  | blankAfter {depth : Nat} {node : Node} {c : Char} {cs : List Char}
      (blank : isSpace c = true) (spelled : Spelled depth node cs) :
      Spelled depth node (cs ++ [c])

end SyncPods.Json
