/-!
# Whole numbers of 64 bits as texts

An optional sign and at least one digit, of a value between the two bounds.
-/

namespace SyncPods

namespace Whole

/-- The least signed number of 64 bits. -/
def least : Int := -Nat.pow 2 63

/-- The greatest signed number of 64 bits. -/
def greatest : Int := Nat.pow 2 63 - 1

/-- The value of a digit of a base up to sixteen. -/
def digit? (base : Nat) (c : Char) : Option Nat :=
  let value? :=
    if c.isDigit then some (c.toNat - 48)
    else if 'a' ≤ c ∧ c ≤ 'f' then some (c.toNat - 87)
    else if 'A' ≤ c ∧ c ≤ 'F' then some (c.toNat - 55)
    else none
  value?.filter (· < base)

/-- The number that some digits are, of which there is at least one. -/
def digits? (base : Nat) (cs : List Char) : Option Nat :=
  if cs.isEmpty then none
  else cs.foldlM (fun n c => (digit? base c).map (base * n + ·)) 0

/-- A sign, if there is one, and what follows it. -/
def sign : List Char → Bool × List Char
  | '-' :: rest => (true, rest)
  | '+' :: rest => (false, rest)
  | cs => (false, cs)

/-- The number of a text in a base. -/
def ofChars? (base : Nat) (cs : List Char) : Option Int := do
  let (negative, rest) := sign cs
  let n ← digits? base rest
  let value : Int := if negative then -n else n
  if least ≤ value ∧ value ≤ greatest then some value else none

def ofText? (text : String) : Option Int := ofChars? 10 text.toList

/-- The nearest number between the bounds. -/
def clamp (n : Int) : Int := max least (min greatest n)

end Whole

end SyncPods
