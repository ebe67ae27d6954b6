import SyncPods.Json.Token

/-!
# Identifiers of connections and workspaces

A UUID is a number of 128 bits. It is written in groups of small hexadecimal digits and read in four
spellings: bare digits, groups, groups in braces and groups after `urn:uuid:`. What is no spelling
is refused with a reason, in which lengths and places count bytes of UTF-8.
-/

namespace SyncPods

/-- A universally unique identifier. -/
structure Uuid where
  bits : BitVec 128
deriving DecidableEq, Repr, Inhabited

namespace Uuid

def nil : Uuid := ⟨0⟩

inductive Refusal where
  | length (found : Nat)
  | character (found : Char) (place : Nat)
  | groupCount (found : Nat)
  | groupLength (group expected found : Nat)
deriving DecidableEq, Repr

def Refusal.message : Refusal → String
  | .length found => s!"invalid length: found {found}"
  | .character found place => s!"invalid character: found `{found.toString}` at {place}"
  | .groupCount found => s!"invalid group count: expected 5, found {found}"
  | .groupLength group expected found =>
    s!"invalid group length in group {group}: expected {expected}, found {found}"

/-- The number of digits in each group. -/
def groupLengths : List Nat := [8, 4, 4, 4, 12]

/-- The place in a hyphenated text at which each group starts. -/
def groupStarts : List Nat := [0, 9, 14, 19, 24]

/-- The number that hexadecimal digits stand for. -/
def ofDigits? (cs : List Char) : Option Uuid := do
  let values ← cs.mapM Json.hexValue?
  return ⟨BitVec.ofNat 128 (values.foldl (fun n d => n * 16 + d) 0)⟩

/-- Reads exactly the groups of digits with a hyphen between them, and gives all the digits. -/
def ungroup? : List Nat → List Char → Option (List Char)
  | [], _ => none
  | [n], cs => if cs.length = n then some cs else none
  | n :: lengths, cs =>
    match cs.drop n with
    | '-' :: rest => if n ≤ cs.length then (ungroup? lengths rest).map (cs.take n ++ ·) else none
    | _ => none

/-- The mark of a name in the scheme of uniform resource names. -/
def urnMark : List Char := ['u', 'r', 'n', ':', 'u', 'u', 'i', 'd', ':']

/-- What follows the mark, in letters of any case. -/
def afterUrnMark? (cs : List Char) : Option (List Char) :=
  if (cs.take 9).map Char.toLower = urnMark then some (cs.drop 9) else none

def betweenBraces? : List Char → Option (List Char)
  | '{' :: rest => if rest.getLast? = some '}' then some rest.dropLast else none
  | _ => none

/-- The part of a text that should be grouped digits; none if it has no length for that. -/
def grouped? (cs : List Char) : Option (List Char) :=
  match Json.byteCount cs with
  | 36 => some cs
  | 38 => betweenBraces? cs
  | 45 => afterUrnMark? cs
  | _ => none

/-- The first character with its place that is neither a hyphen nor a digit, places counted on from
`place`. -/
def foreign? (place : Nat) : List Char → Option (Char × Nat)
  | [] => none
  | c :: rest =>
    if c = '-' ∨ (Json.hexValue? c).isSome then foreign? (place + c.utf8Size) rest
    else some (c, place)

def hyphens (cs : List Char) : List Nat :=
  cs.zipIdx.filterMap fun (c, place) => if c = '-' then some place else none

/-- The first group that ends at a wrong place, with the length it should have and the one it has;
the last group if all others end at their places. -/
def wrongGroup (subjectLength : Nat) (places : List Nat) : Refusal :=
  let ends := (places.zip (groupStarts.zip groupLengths)).zipIdx
  match ends.find? fun ((place, start, length), _) => place ≠ start + length with
  | some ((place, start, length), group) => .groupLength group length (place - start)
  | none => .groupLength 4 12 (subjectLength - 24)

/-- The reason to refuse the scanned part of a subject, which starts at a place in it. -/
def refuseScanned (subject scanned : List Char) (start : Nat) (bare : Bool) : Refusal :=
  match foreign? start scanned with
  | some (c, place) => .character c place
  | none =>
    let places := hyphens scanned
    if bare && places.isEmpty then .length (Json.byteCount subject)
    else if places.length ≠ 4 then .groupCount (places.length + 1)
    else wrongGroup (Json.byteCount subject) places

/-- The reason to refuse a text that is no spelling. -/
def refuse (cs : List Char) : Refusal :=
  match grouped? cs with
  | some subject => refuseScanned subject subject 0 false
  | none =>
    if cs.isEmpty || 45 < Json.byteCount cs then .length (Json.byteCount cs)
    else
      match betweenBraces? cs, afterUrnMark? cs with
      | some scanned, _ => refuseScanned cs scanned 1 false
      | none, some scanned => refuseScanned cs scanned 9 false
      | none, none => refuseScanned cs cs 0 true

/-- The digits of a spelling. -/
def digits? (cs : List Char) : Option (List Char) :=
  match grouped? cs with
  | some subject => ungroup? groupLengths subject
  | none => if cs.length = 32 then some cs else none

/-- The identifier of a text in one of its spellings. -/
def parse (s : String) : Except Refusal Uuid :=
  match (digits? s.toList).bind ofDigits? with
  | some id => .ok id
  | none => .error (refuse s.toList)

/-- The digits of a number, `count` of them. -/
def hexDigits : Nat → Nat → List Char
  | 0, _ => []
  | count + 1, n => hexDigits count (n / 16) ++ [Nat.digitChar (n % 16)]

/-- The digits in groups of the given lengths. -/
def group : List Nat → List Char → List Char
  | [], _ => []
  | [_], cs => cs
  | n :: lengths, cs => cs.take n ++ '-' :: group lengths (cs.drop n)

/-- Small hexadecimal digits in groups. -/
def text (id : Uuid) : String :=
  String.ofList (group groupLengths (hexDigits 32 id.bits.toNat))

end Uuid

end SyncPods
