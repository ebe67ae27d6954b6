/-!
# Finite numbers in double precision

A finite number of the binary64 format is a significand below `2 ^ 53` times a power of two. The
one operation is rounding a quotient of whole numbers to the nearest such number; products and
quotients of numbers of the format are rounded through it.
-/

namespace SyncPods

/-- A finite number in double precision: `significand * 2 ^ exponent`, negated if `negative`. -/
structure Binary64 where
  negative : Bool
  significand : Nat
  exponent : Int
deriving DecidableEq, Repr, Inhabited

namespace Binary64

def minExponent : Int := -1074

def maxExponent : Int := 971

def zero (negative : Bool) : Binary64 := ⟨negative, 0, minExponent⟩

def isZero (x : Binary64) : Bool := x.significand == 0

/-- The whole number nearest to `num / den`; of two equally near ones the even one. -/
def roundHalfEven (num den : Nat) : Nat :=
  let q := num / den
  let r := num % den
  if 2 * r < den || (2 * r == den && q % 2 == 0) then q else q + 1

/-- The quotient `num / den` as `num' / den'` after division by `2 ^ e`. -/
def unscale (num den : Nat) (e : Int) : Nat × Nat :=
  if 0 ≤ e then (num, den * Nat.pow 2 e.toNat) else (num * Nat.pow 2 (-e).toNat, den)

/-- The greatest `e` with `2 ^ e ≤ num / den`, for positive numbers. -/
def log2Quotient (num den : Nat) : Int :=
  let e : Int := (num.log2 : Int) - den.log2
  let (n, d) := unscale num den e
  if n < d then e - 1 else e

/-- The number nearest to `num / den`, ties to the even significand; none beyond the format. -/
def ofQuotient? (negative : Bool) (num den : Nat) : Option Binary64 :=
  if num = 0 then some (zero negative)
  else
    let e := max minExponent (log2Quotient num den - 52)
    let (n, d) := unscale num den e
    let m := roundHalfEven n d
    let x : Binary64 :=
      if m = Nat.pow 2 53 then ⟨negative, Nat.pow 2 52, e + 1⟩ else ⟨negative, m, e⟩
    if x.exponent ≤ maxExponent then some x else none

/-- The magnitude as a quotient of whole numbers. -/
def quotient (x : Binary64) : Nat × Nat :=
  unscale x.significand 1 (-x.exponent)

/-- The nearest number to the product of a number and a positive one. -/
def mul? (x y : Binary64) : Option Binary64 :=
  let (a, b) := x.quotient
  let (c, d) := y.quotient
  ofQuotient? x.negative (a * c) (b * d)

/-- The nearest number to the quotient of a number and a positive one. -/
def div? (x y : Binary64) : Option Binary64 :=
  let (a, b) := x.quotient
  let (c, d) := y.quotient
  ofQuotient? x.negative (a * d) (b * c)

def ofNat? (negative : Bool) (n : Nat) : Option Binary64 :=
  ofQuotient? negative n 1

/-- The nearest number to `digits * 10 ^ exponent`. The two bounds on the exponent decide texts
whose powers of ten would be too large to write down. -/
def ofDecimal? (negative : Bool) (digits : Nat) (exponent : Int) : Option Binary64 :=
  let size : Int := (Nat.toDigits 10 digits).length + exponent
  if digits = 0 ∨ size < -400 then some (zero negative)
  else if 400 < size then none
  else if 0 ≤ exponent then ofQuotient? negative (digits * Nat.pow 10 exponent.toNat) 1
  else ofQuotient? negative digits (Nat.pow 10 (-exponent).toNat)

/-- The nearest whole number, halves away from zero. -/
def round (x : Binary64) : Int :=
  let (n, d) := x.quotient
  let m : Int := (2 * n + d) / (2 * d)
  if x.negative then -m else m

end Binary64

end SyncPods
