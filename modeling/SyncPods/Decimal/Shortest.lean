import SyncPods.Decimal.Binary64

/-!
# Shortest decimals

The decimal with the fewest digits that still rounds to a given number in double precision, the
nearest of them to the number, and two ways of writing it.
-/

namespace SyncPods

/-- The decimal `digits * 10 ^ exponent`. -/
structure Decimal where
  digits : Nat
  exponent : Int
deriving DecidableEq, Repr

namespace Binary64

/-- The decimals that round to a number lie between `low / den` and `high / den`, where the number
itself is `mid / den`; the ends belong to them if `closed`. -/
structure RoundingInterval where
  low : Nat
  mid : Nat
  high : Nat
  den : Nat
  closed : Bool

/-- The interval of a positive number. Below a power of two the next number is only half as far. -/
def roundingInterval (x : Binary64) : RoundingInterval :=
  let m := 4 * x.significand
  let below := if x.significand = Nat.pow 2 52 ∧ minExponent < x.exponent then 1 else 2
  let up (n : Nat) : Nat := (unscale n 4 (-x.exponent)).1
  ⟨up (m - below), up m, up (m + 2), (unscale m 4 (-x.exponent)).2, x.significand % 2 == 0⟩

/-- Whether `n * 10 ^ e` lies in the interval. -/
def RoundingInterval.holds (i : RoundingInterval) (n : Nat) (e : Int) : Bool :=
  let a := n * i.den * Nat.pow 10 e.toNat
  let scale := Nat.pow 10 (-e).toNat
  if i.closed then i.low * scale ≤ a && a ≤ i.high * scale
  else i.low * scale < a && a < i.high * scale

/-- Of the two neighbours of the number among the multiples of `10 ^ e`, the one in the interval;
of both the nearer, of two equally near ones the even one. -/
def RoundingInterval.onGrid? (i : RoundingInterval) (e : Int) : Option Nat :=
  let num := i.mid * Nat.pow 10 (-e).toNat
  let den := i.den * Nat.pow 10 e.toNat
  let n := num / den
  match i.holds n e, i.holds (n + 1) e with
  | true, true => some (roundHalfEven num den)
  | true, false => some n
  | false, true => some (n + 1)
  | false, false => none

/-- The exponent of the first digit of `num / den`. -/
def leadingExponent (num den : Nat) : Int :=
  if den ≤ num then (Nat.toDigits 10 (num / den)).length - 1
  else -((Nat.toDigits 10 ((den + num - 1) / num - 1)).length : Int)

def stripZeros : Nat → Decimal → Decimal
  | 0, d => d
  | fuel + 1, d =>
    if d.digits % 10 = 0 ∧ d.digits ≠ 0 then stripZeros fuel ⟨d.digits / 10, d.exponent + 1⟩ else d

/-- The shortest decimal that rounds to the magnitude of the number. Seventeen digits always do. -/
def shortest (x : Binary64) : Decimal :=
  if x.significand = 0 then ⟨0, 0⟩
  else
    let i := x.roundingInterval
    let first := leadingExponent i.mid i.den
    let grids := (List.range 18).map fun (k : Nat) => first - k
    match grids.findSome? fun e => (i.onGrid? e).map fun n => Decimal.mk n e with
    | some d => stripZeros 20 d
    | none => ⟨0, 0⟩

/-- The digits of a decimal and the place of the point in them, counted from their start. -/
def digitsAndPoint (d : Decimal) : List Char × Int :=
  let ds := Nat.toDigits 10 d.digits
  (ds, ds.length + d.exponent)

/-- The digits with the point at its place, and zeros where digits lack. -/
def positional (ds : List Char) (point : Int) : String × String :=
  if point ≤ 0 then ("0", String.ofList (List.replicate (-point).toNat '0' ++ ds))
  else
    let n := point.toNat
    let whole := ds.take n ++ List.replicate (n - ds.length) '0'
    (String.ofList whole, String.ofList (ds.drop n))

/-- Without an exponent, and with a point only before digits. -/
def plain (x : Binary64) : String :=
  let (ds, point) := digitsAndPoint x.shortest
  let (whole, fraction) := positional ds point
  let sign := if x.negative then "-" else ""
  if fraction.isEmpty then sign ++ whole else sign ++ whole ++ "." ++ fraction

/-- With a point and at least one digit on each side of it from `10 ^ -5` to below `10 ^ 16`, with
an exponent outside of that. -/
def scientific (x : Binary64) : String :=
  let (ds, point) := digitsAndPoint x.shortest
  let sign := if x.negative then "-" else ""
  if x.significand = 0 then sign ++ "0.0"
  else if -4 ≤ point ∧ point ≤ 16 then
    let (whole, fraction) := positional ds point
    sign ++ whole ++ "." ++ if fraction.isEmpty then "0" else fraction
  else
    let e := point - 1
    let mantissa :=
      match ds with
      | [] => ""
      | [d] => d.toString
      | d :: rest => d.toString ++ "." ++ String.ofList rest
    sign ++ mantissa ++ "e" ++ (if e < 0 then "-" else "+") ++ toString e.natAbs

end Binary64

end SyncPods
