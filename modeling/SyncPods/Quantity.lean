/-!
# Resource quantities

The grammar of an amount of a resource: a number with an optional sign and fraction, and a unit or a
decimal exponent behind it.
-/

namespace SyncPods.Quantity

/-- The units, decimal and binary, and no unit at all. -/
def units : List String :=
  ["", "n", "u", "m", "k", "M", "G", "T", "P", "E", "Ki", "Mi", "Gi", "Ti", "Pi", "Ei"]

/-- A text without one sign at its start. -/
def dropSign : List Char → List Char
  | '+' :: rest => rest
  | '-' :: rest => rest
  | cs => cs

/-- Digits with at most one point among them, and at least one digit. -/
def isNumber (cs : List Char) : Bool :=
  let whole := cs.takeWhile (· ≠ '.')
  let fraction := (cs.dropWhile (· ≠ '.')).drop 1
  whole.all Char.isDigit && fraction.all Char.isDigit && !(whole.isEmpty && fraction.isEmpty)

/-- The letter of an exponent, an optional sign and digits. -/
def isExponent : List Char → Bool
  | c :: rest =>
    let digits := dropSign rest
    (c == 'e' || c == 'E') && !digits.isEmpty && digits.all Char.isDigit
  | [] => false

def isValid (s : String) : Bool :=
  let unsigned := dropSign s.toList
  let inNumber (c : Char) : Bool := c.isDigit || c == '.'
  let suffix := unsigned.dropWhile inNumber
  isNumber (unsigned.takeWhile inNumber) &&
    (units.contains (String.ofList suffix) || isExponent suffix)

end SyncPods.Quantity
