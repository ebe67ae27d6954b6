import SyncPods.Decimal.Whole

/-!
# Web addresses

An address has a scheme and behind it, for the schemes of the web always, an authority: a user, a
host and a port. A path follows. Tabs and line breaks in an address do not count, and neither do
controls and blanks around it.
-/

namespace SyncPods.Web

/-- How the part behind a scheme is made up. -/
inductive Family where
  /-- Schemes of the web, with a host. -/
  | web
  /-- Files, with a host or none. -/
  | file
  | other
deriving DecidableEq, Repr

def Family.ofScheme : String → Family
  | "http" => .web
  | "https" => .web
  | "ftp" => .web
  | "ws" => .web
  | "wss" => .web
  | "file" => .file
  | _ => .other

/-- Whether backslashes part an address like slashes. -/
def Family.isSpecial (family : Family) : Bool := family != .other

/-- What is looked at of an address. -/
structure Address where
  scheme : String
  user : String
  path : String
deriving DecidableEq, Repr

namespace Address

def isSkipped (c : Char) : Bool := c == '\t' || c == '\n' || c == '\r'

def isEdge (c : Char) : Bool := c.toNat ≤ 0x20

/-- The characters of an address that count. -/
def significant (text : String) : List Char :=
  let inner := (text.toList.dropWhile isEdge).reverse.dropWhile isEdge
  inner.reverse.filter fun c => ! isSkipped c

def isSchemeChar (c : Char) : Bool := c.isAlphanum || c == '+' || c == '-' || c == '.'

/-- The scheme in small letters, and what follows its colon. -/
def scheme? (cs : List Char) : Option (String × List Char) :=
  let name := cs.takeWhile isSchemeChar
  match name, cs.dropWhile isSchemeChar with
  | first :: _, ':' :: rest =>
    if first.isAlpha then some (String.ofList (name.map Char.toLower), rest) else none
  | _, _ => none

def isSlash (family : Family) (c : Char) : Bool := c == '/' || (family.isSpecial && c == '\\')

/-- A character that ends the authority. -/
def isEnd (family : Family) (c : Char) : Bool := isSlash family c || c == '?' || c == '#'

/-- A character that no host holds. -/
def isForbidden (c : Char) : Bool :=
  c ∈ ['\x00', ' ', '#', '/', ':', '<', '>', '?', '@', '[', '\\', ']', '^', '|']

/-- A character that no host of the web holds. -/
def isForbiddenInDomain (c : Char) : Bool :=
  isForbidden c || c.toNat < 0x20 || c == '%' || c.toNat == 0x7F

/-- The text with the bytes that its percent codes stand for, read as UTF-8. -/
def unescaped : List Char → List Char
  | '%' :: a :: b :: rest =>
    match Whole.digit? 16 a, Whole.digit? 16 b with
    | some high, some low => Char.ofNat (16 * high + low) :: unescaped rest
    | _, _ => '%' :: unescaped (a :: b :: rest)
  | c :: rest => c :: unescaped rest
  | [] => []

/-- The parts of a host between points; a point at its end does not count. -/
def hostParts (host : List Char) : List (List Char) :=
  let parts := (String.ofList host).splitOn "."
  let parts := if parts.getLast? = some "" && parts.length > 1 then parts.dropLast else parts
  parts.map String.toList

/-- A number of a numeric host: of base sixteen, eight or ten. -/
def hostNumber? (part : List Char) : Option Nat :=
  match part with
  | [] => none
  | '0' :: 'x' :: digits => if digits.isEmpty then some 0 else Whole.digits? 16 digits
  | '0' :: 'X' :: digits => if digits.isEmpty then some 0 else Whole.digits? 16 digits
  | '0' :: digit :: digits => Whole.digits? 8 (digit :: digits)
  | digits => Whole.digits? 10 digits

/-- Whether a host ends in a number, and so has to be numeric. -/
def isNumeric (host : List Char) : Bool :=
  match (hostParts host).getLast? with
  | some part => (part ≠ [] && part.all Char.isDigit) || (hostNumber? part).isSome
  | none => false

/-- Whether a numeric host is of four bytes, of which the last number may stand for several. -/
def isValidNumeric (host : List Char) : Bool :=
  match (hostParts host).mapM hostNumber? with
  | none => false
  | some numbers =>
    numbers.length ≤ 4 && numbers.dropLast.all (· ≤ 255) &&
      (numbers.getLast?.getD 0) < Nat.pow 256 (5 - numbers.length)

/-- Whether a host is one between brackets, of hexadecimal numbers with colons between them. -/
def isBracketed (host : List Char) : Bool :=
  host.head? = some '[' && host.getLast? = some ']' && 4 ≤ host.length &&
    (host.drop 1).dropLast.all fun c => (Whole.digit? 16 c).isSome || c == ':' || c == '.'

/-- Whether a host of a family is one. -/
def isHost (family : Family) (host : List Char) : Bool :=
  if host.head? = some '[' then isBracketed host
  else
    match family with
    | .other => ! host.any isForbidden
    | family =>
      let plain := unescaped host
      if plain.isEmpty then family == .file
      else ! plain.any isForbiddenInDomain && (! isNumeric plain || isValidNumeric plain)

/-- The host at the start of an authority without user. -/
def hostOf : Bool → List Char → List Char
  | _, [] => []
  | inside, c :: rest =>
    if c == ':' && ! inside then []
    else c :: hostOf (if c == '[' then true else if c == ']' then false else inside) rest

/-- Whether what follows a host is nothing or a port of sixteen bits. -/
def isPort : List Char → Bool
  | [] => true
  | ':' :: digits => digits.isEmpty || ((Whole.digits? 10 digits).any (· < Nat.pow 2 16))
  | _ => false

/-- An authority as its user's part, if there is one, and the rest. -/
def splitUser (authority : List Char) : Option (List Char) × List Char :=
  if '@' ∈ authority then
    let backwards := authority.reverse
    (some ((backwards.dropWhile (· != '@')).drop 1).reverse,
      (backwards.takeWhile (· != '@')).reverse)
  else (none, authority)

/-- The user of an authority; none if it is no authority of the family. -/
def userOf? (family : Family) (authority : List Char) : Option String :=
  let (user, place) := splitUser authority
  let host := hostOf false place
  let port := place.drop host.length
  if ! isHost family host || ! isPort port then none
  else if host.isEmpty && (family == .web || ! port.isEmpty) then none
  else some (String.ofList ((user.getD []).takeWhile (· != ':')))

/-- A segment of a path that stands for its own place. -/
def isDot (segment : String) : Bool := segment.toLower ∈ [".", "%2e"]

/-- A segment of a path that stands for the place above. -/
def isDoubleDot (segment : String) : Bool := segment.toLower ∈ ["..", ".%2e", "%2e.", "%2e%2e"]

/-- The segments that are left when the dots among them are gone, the last one first. -/
def withoutDots (sofar : List String) : List String → List String
  | [] => sofar
  | segment :: rest =>
    if isDoubleDot segment then
      let above := sofar.drop 1
      if rest.isEmpty then "" :: above else withoutDots above rest
    else if isDot segment then
      if rest.isEmpty then "" :: sofar else withoutDots sofar rest
    else withoutDots (segment :: sofar) rest

def pathOf (family : Family) (cs : List Char) : String :=
  let sent := cs.takeWhile fun c => c != '?' && c != '#'
  match sent with
  | [] => if family.isSpecial then "/" else ""
  | first :: rest =>
    let inner := if isSlash family first then rest else sent
    let slashed := inner.map fun c => if isSlash family c then '/' else c
    let segments := (String.ofList slashed).splitOn "/"
    "/" ++ "/".intercalate (withoutDots [] segments).reverse

/-- The address behind the slashes of a scheme. -/
def withAuthority? (scheme : String) (family : Family) (cs : List Char) : Option Address :=
  let authority := cs.takeWhile fun c => ! isEnd family c
  let rest := cs.drop authority.length
  (userOf? family authority).map (⟨scheme, ·, pathOf family rest⟩)

/-- The address that a text is. -/
def ofText? (text : String) : Option Address := do
  let (scheme, rest) ← scheme? (significant text)
  let family := Family.ofScheme scheme
  match family, rest with
  | .web, rest => withAuthority? scheme family (rest.dropWhile (isSlash family))
  | family, first :: second :: behind =>
    if isSlash family first && isSlash family second then withAuthority? scheme family behind
    else if isSlash family first || family == .file then
      some ⟨scheme, "", pathOf family rest⟩
    else some ⟨scheme, "", String.ofList (rest.takeWhile fun c => c != '?' && c != '#')⟩
  | .file, rest => some ⟨scheme, "", pathOf .file rest⟩
  | .other, rest => some ⟨scheme, "", String.ofList (rest.takeWhile fun c => c != '?' && c != '#')⟩

end Address

end SyncPods.Web
