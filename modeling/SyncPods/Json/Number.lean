import SyncPods.Json.Value

/-!
# Reading numbers

A number's leading digits are read as a whole number of 64 bits. What does not fit, a fraction and
an exponent only scale it by a power of ten, in double precision, with a rounding at each step.
-/

namespace SyncPods.Json

structure NumberText where
  negative : Bool
  whole : List Char
  fraction : List Char
  /-- Whether the exponent is negative, and its digits. -/
  exponent : Option (Bool × List Char)

/-- The greatest number that digits are gathered into. -/
def maxSignificand : Nat := Nat.pow 2 64 - 1

/-- The greatest exponent that is read as a number. -/
def maxExponentText : Nat := Nat.pow 2 31 - 1

def digitValue (c : Char) : Nat := c.toNat - '0'.toNat

/-- Extends `n` by the digits as long as it stays within `bound`, and gives the digits left. -/
def gather (bound n : Nat) : List Char → Nat × List Char
  | [] => (n, [])
  | d :: ds =>
    let next := n * 10 + digitValue d
    if bound < next then (n, d :: ds) else gather bound next ds

/-- The nearest number in double precision to a power of ten. -/
def powerOfTen (k : Nat) : Binary64 :=
  (Binary64.ofNat? false (Nat.pow 10 k)).getD default

/-- The greatest power of ten in double precision. -/
def maxPower : Nat := 308

/-- `x * 10 ^ e`, with a rounding for each power of ten; none beyond double precision. Three
divisions by the greatest power leave nothing of a 64-bit number, so no more are ever made. -/
def scale : Nat → Binary64 → Int → Option Binary64
  | divisions, x, e =>
    if e.natAbs ≤ maxPower then
      if 0 ≤ e then x.mul? (powerOfTen e.natAbs) else x.div? (powerOfTen e.natAbs)
    else if x.isZero then some x
    else if 0 ≤ e then none
    else
      match divisions with
      | 0 => some (Binary64.zero x.negative)
      | divisions + 1 => (x.div? (powerOfTen maxPower)).bind (scale divisions · (e + maxPower))

/-- `significand * 10 ^ e` in double precision. -/
def scaled (negative : Bool) (significand : Nat) (e : Int) : Option Number := do
  let x ← Binary64.ofNat? negative significand
  return .float (← scale 3 x e)

/-- A whole number of 64 bits, signed or not. Zero with a sign is no whole number. -/
def ofWhole (negative : Bool) (n : Nat) : Option Number :=
  if negative then
    if n = 0 ∨ Nat.pow 2 63 < n then (Binary64.ofNat? true n).map .float else some (.integer (-n))
  else some (.integer n)

/-- The number of a text; none if it is beyond double precision. -/
def NumberText.value? (t : NumberText) : Option Number :=
  let (n, dropped) := gather maxSignificand 0 t.whole
  if t.fraction.isEmpty && t.exponent.isNone && dropped.isEmpty then ofWhole t.negative n
  else
    let (m, unread) := gather maxSignificand n t.fraction
    let e : Int := dropped.length - (t.fraction.length - unread.length : Nat)
    match t.exponent with
    | none => scaled t.negative m e
    | some (down, digits) =>
      match gather maxExponentText 0 digits with
      | (k, []) => scaled t.negative m (if down then e - k else e + k)
      | (_, _ :: _) =>
        if m = 0 || down then some (.float (Binary64.zero t.negative)) else none

end SyncPods.Json
