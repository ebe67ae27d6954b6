import SyncPods.Json.Number

/-!
# The tokens of a JSON text

A text is cut into tokens up to its first fault. A token may be well formed and yet unreadable:
a number beyond double precision, or a string with half of a surrogate pair. Such a token is a
fault where its value is wanted, and none where it is passed over.
-/

namespace SyncPods.Json

/-- Why a text is no JSON, or none that can be read. -/
inductive Fault where
  | endInValue
  | endInString
  | endInList
  | endInObject
  | noValue
  | noName
  | noColon
  | noListComma
  | noObjectComma
  | commaAtEnd
  | badWord
  | badNumber
  | badEscape
  /-- A string holds a control. -/
  | rawControl
  /-- The second half of a surrogate pair stands alone, or something else stands in its place. -/
  | loneSurrogate
  /-- A string goes on without the second half of a surrogate pair. -/
  | halfPair
  /-- A number is beyond double precision. -/
  | tooGreat
  | tooDeep
  /-- Something follows the value. -/
  | surplus
deriving DecidableEq, Repr

namespace Fault

/-- Whether the text ends too early. -/
def isEnd : Fault → Bool
  | endInValue => true
  | endInString => true
  | endInList => true
  | endInObject => true
  | _ => false

def message : Fault → String
  | endInValue => "EOF while parsing a value"
  | endInString => "EOF while parsing a string"
  | endInList => "EOF while parsing a list"
  | endInObject => "EOF while parsing an object"
  | noValue => "expected value"
  | noName => "key must be a string"
  | noColon => "expected `:`"
  | noListComma => "expected `,` or `]`"
  | noObjectComma => "expected `,` or `\x7d`"
  | commaAtEnd => "trailing comma"
  | badWord => "expected ident"
  | badNumber => "invalid number"
  | badEscape => "invalid escape"
  | rawControl => "control character (\\u0000-\\u001F) found while parsing a string"
  | loneSurrogate => "lone leading surrogate in hex escape"
  | halfPair => "unexpected end of hex escape"
  | tooGreat => "number out of range"
  | tooDeep => "recursion limit exceeded"
  | surplus => "trailing characters"

end Fault

/-- A token, or the fault that ends the tokens. The two faults of a broken token are found by
reading its value and by passing over it. -/
inductive Token where
  | openBracket
  | closeBracket
  | openBrace
  | closeBrace
  | comma
  | colon
  | null
  | bool (value : Bool)
  | number (value? : Option Number)
  | string (value : Except Fault String)
  | broken (read skipped : Fault)
  | brokenString (read skipped : Fault)
deriving Repr

def isSpace (c : Char) : Bool :=
  c == ' ' || c == '\n' || c == '\t' || c == '\r'

def hexValue? (c : Char) : Option Nat :=
  if '0' ≤ c ∧ c ≤ '9' then some (c.toNat - '0'.toNat)
  else if 'a' ≤ c ∧ c ≤ 'f' then some (c.toNat - 'a'.toNat + 10)
  else if 'A' ≤ c ∧ c ≤ 'F' then some (c.toNat - 'A'.toNat + 10)
  else none

/-- A piece of a string: a character, or a 16-bit unit given by its code. -/
inductive Piece where
  | char (c : Char)
  | unit (n : Nat)

/-- The character of a one-letter escape. -/
def shortEscape? : Char → Option Char
  | '"' => some '"'
  | '\\' => some '\\'
  | '/' => some '/'
  | 'b' => some '\x08'
  | 'f' => some '\x0c'
  | 'n' => some '\n'
  | 'r' => some '\r'
  | 't' => some '\t'
  | _ => none

/-- The number of bytes of a text in UTF-8. -/
def byteCount : List Char → Nat
  | [] => 0
  | c :: cs => c.utf8Size + byteCount cs

/-- The fault of a unit with fewer than four characters left: the text ends too early, unless four
bytes are left. -/
def shortUnit (cs : List Char) : Fault :=
  if byteCount cs < 4 then .endInString else .badEscape

/-- The pieces of a string after its opening mark, and the text after its closing one. Where the
string breaks off at a character, that character is the last piece. -/
def stringPieces : List Char → List Piece × Except Fault (List Char)
  | [] => ([], .error .endInString)
  | '"' :: rest => ([], .ok rest)
  | '\\' :: 'u' :: a :: b :: c :: d :: rest =>
    match hexValue? a, hexValue? b, hexValue? c, hexValue? d with
    | some a, some b, some c, some d =>
      let (pieces, after) := stringPieces rest
      (.unit (((a * 16 + b) * 16 + c) * 16 + d) :: pieces, after)
    | _, _, _, _ => ([], .error .badEscape)
  | '\\' :: 'u' :: rest => ([], .error (shortUnit rest))
  | '\\' :: e :: rest =>
    match shortEscape? e with
    | some c =>
      let (pieces, after) := stringPieces rest
      (.char c :: pieces, after)
    | none => ([.char e], .error .badEscape)
  | ['\\'] => ([], .error .endInString)
  | c :: rest =>
    if c.toNat < 0x20 then ([.char c], .error .rawControl)
    else
      let (pieces, after) := stringPieces rest
      (.char c :: pieces, after)

def isLeading (n : Nat) : Bool := 0xD800 ≤ n && n < 0xDC00

def isTrailing (n : Nat) : Bool := 0xDC00 ≤ n && n < 0xE000

/-- The characters of the pieces, or the fault of a surrogate that lacks its other half. A leading
one at the end is left open if `unfinished`. -/
def pieceChars (unfinished : Bool) : List Piece → Except Fault (List Char)
  | [] => .ok []
  | .char c :: rest => (pieceChars unfinished rest).map (c :: ·)
  | .unit n :: rest =>
    if isTrailing n then .error .loneSurrogate
    else if isLeading n then
      match rest with
      | .unit m :: rest =>
        if isTrailing m then
          (pieceChars unfinished rest).map
            (Char.ofNat (0x10000 + (n - 0xD800) * 0x400 + (m - 0xDC00)) :: ·)
        else .error .loneSurrogate
      | [] => if unfinished then .ok [] else .error .halfPair
      | .char _ :: _ => .error .halfPair
    else (pieceChars unfinished rest).map (Char.ofNat n :: ·)

/-- The string token of a text after the opening mark. -/
def stringToken (cs : List Char) : Token × Option (List Char) :=
  match stringPieces cs with
  | (pieces, .ok rest) => (.string ((pieceChars false pieces).map String.ofList), some rest)
  | (pieces, .error fault) =>
    match pieceChars true pieces with
    | .ok _ => (.brokenString fault fault, none)
    | .error earlier => (.brokenString earlier fault, none)

/-- A number that stops in its middle: reading tells the end of the text from a wrong character,
passing over does not. -/
def brokenNumber (rest : List Char) : Token × Option (List Char) :=
  (.broken (if rest.isEmpty then .endInValue else .badNumber) .badNumber, none)

/-- The number token with the whole part, fraction and sign given, and an exponent perhaps still to
come. -/
def exponentToken (negative : Bool) (whole fraction cs : List Char) :
    Token × Option (List Char) :=
  let plain := (Token.number (NumberText.value? ⟨negative, whole, fraction, none⟩), some cs)
  match cs with
  | e :: rest =>
    if e = 'e' ∨ e = 'E' then
      let (down, rest) :=
        match rest with
        | '-' :: rest => (true, rest)
        | '+' :: rest => (false, rest)
        | rest => (false, rest)
      let digits := rest.takeWhile Char.isDigit
      let rest := rest.dropWhile Char.isDigit
      if digits.isEmpty then brokenNumber rest
      else (.number (NumberText.value? ⟨negative, whole, fraction, some (down, digits)⟩), some rest)
    else plain
  | [] => plain

/-- The number token after the sign. -/
def unsignedToken (negative : Bool) (cs : List Char) : Token × Option (List Char) :=
  let digits := cs.takeWhile Char.isDigit
  let rest := cs.dropWhile Char.isDigit
  match digits with
  | [] => brokenNumber rest
  | '0' :: _ :: _ => (.broken .badNumber .badNumber, none)
  | digits =>
    match rest with
    | '.' :: rest =>
      let fraction := rest.takeWhile Char.isDigit
      let rest := rest.dropWhile Char.isDigit
      if fraction.isEmpty then brokenNumber rest else exponentToken negative digits fraction rest
    | rest => exponentToken negative digits [] rest

/-- The token of a name, of which the first letter has been seen. -/
def nameToken (token : Token) : List Char → List Char → Token × Option (List Char)
  | [], rest => (token, some rest)
  | _ :: _, [] => (.broken .endInValue .endInValue, none)
  | n :: name, c :: rest =>
    if n = c then nameToken token name rest else (.broken .badWord .badWord, none)

/-- The token that starts with a character, and the text after it. -/
def tokenAt (c : Char) (rest : List Char) : Token × Option (List Char) :=
  match c with
  | '[' => (.openBracket, some rest)
  | ']' => (.closeBracket, some rest)
  | '{' => (.openBrace, some rest)
  | '}' => (.closeBrace, some rest)
  | ',' => (.comma, some rest)
  | ':' => (.colon, some rest)
  | '"' => stringToken rest
  | 'n' => nameToken .null ['u', 'l', 'l'] rest
  | 't' => nameToken (.bool true) ['r', 'u', 'e'] rest
  | 'f' => nameToken (.bool false) ['a', 'l', 's', 'e'] rest
  | '-' => unsignedToken true rest
  | c =>
    if c.isDigit then unsignedToken false (c :: rest)
    else (.broken .noValue .noValue, none)

/-- The tokens of the first `fuel` steps through a text. -/
def tokensFrom : Nat → List Char → List Token
  | 0, _ => []
  | _ + 1, [] => []
  | fuel + 1, c :: rest =>
    if isSpace c then tokensFrom fuel rest
    else
      match tokenAt c rest with
      | (token, some rest) => token :: tokensFrom fuel rest
      | (token, none) => [token]

/-- The tokens of a text, up to the first fault. -/
def tokens (text : String) : List Token :=
  tokensFrom text.length text.toList

end SyncPods.Json
