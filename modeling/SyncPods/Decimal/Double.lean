import SyncPods.Decimal.Shortest
import SyncPods.Decimal.Whole

/-!
# Numbers in double precision as texts

A number in double precision is finite, one of the two infinities, or not a number. A text of one
has digits with a point anywhere among them and an exponent after them, or a name.
-/

namespace SyncPods

inductive Double where
  | finite (value : Binary64)
  | infinite (negative : Bool)
  | notANumber
deriving DecidableEq, Repr

namespace Double

def smallLetter (c : Char) : Char :=
  if 'A' ≤ c ∧ c ≤ 'Z' then Char.ofNat (c.toNat + 32) else c

/-- The number of a name in letters of any case. -/
def ofName? (negative : Bool) (cs : List Char) : Option Double :=
  match String.ofList (cs.map smallLetter) with
  | "inf" => some (.infinite negative)
  | "infinity" => some (.infinite negative)
  | "nan" => some .notANumber
  | _ => none

/-- The exponent behind the digits; zero if there is none. -/
def exponent? : List Char → Option Int
  | [] => some 0
  | e :: rest =>
    if e == 'e' || e == 'E' then
      let (negative, digits) := Whole.sign rest
      (Whole.digits? 10 digits).map fun n => if negative then -n else n
    else none

/-- The number of digits with a point among them, and an exponent. -/
def ofDigits? (negative : Bool) (cs : List Char) : Option Double := do
  let whole := cs.takeWhile Char.isDigit
  let rest := cs.dropWhile Char.isDigit
  let (fraction, rest) :=
    match rest with
    | '.' :: rest => (rest.takeWhile Char.isDigit, rest.dropWhile Char.isDigit)
    | rest => ([], rest)
  let digits ← Whole.digits? 10 (whole ++ fraction)
  let e ← exponent? rest
  match Binary64.ofDecimal? negative digits (e - fraction.length) with
  | some x => return .finite x
  | none => return .infinite negative

def ofText? (text : String) : Option Double :=
  let (negative, rest) := Whole.sign text.toList
  (ofName? negative rest).or (ofDigits? negative rest)

/-- The number as a text without an exponent. -/
def plain : Double → String
  | .finite x => x.plain
  | .infinite negative => if negative then "-inf" else "inf"
  | .notANumber => "NaN"

/-- The number as a text with a point in it, if it is finite. -/
def pointed : Double → String
  | .finite x => if '.' ∈ x.plain.toList then x.plain else x.plain ++ ".0"
  | x => x.plain

/-- The nearest whole number of 64 bits, halves away from zero. -/
def toWhole : Double → Int
  | .finite x => Whole.clamp x.round
  | .infinite negative => if negative then Whole.least else Whole.greatest
  | .notANumber => 0

end Double

end SyncPods
