/-!
Finite binary floating point numbers of 64 bits, in exact arithmetic.

A number is its sign and the place of its magnitude among the finite magnitudes in ascending
order. Rounding goes to the nearest magnitude, a half to the one of even place.
-/

namespace Storyline

-- Powers are those of the core library, whatever else is in sight.
attribute [default_instance 20000] instPowNat

instance (priority := 1100) corePower : Pow Nat Nat := instPowNat

/-- A finite number: the magnitude is the one at `rank`, zero being at 0. -/
structure Binary64 where
  negative : Bool
  rank : Nat
  finite : rank < 0x7ff0000000000000
  deriving DecidableEq

namespace Binary64

/-- The whole number `m` of the magnitude `m · 2 ^ exponent`. -/
def significand (x : Binary64) : Nat :=
  if x.rank < 2 ^ 52 then x.rank else x.rank % 2 ^ 52 + 2 ^ 52

def exponent (x : Binary64) : Int :=
  if x.rank < 2 ^ 52 then -1074 else (x.rank / 2 ^ 52 : Nat) - 1075

def magnitude (x : Binary64) : Nat × Nat :=
  (x.significand * 2 ^ x.exponent.toNat, 2 ^ (-x.exponent).toNat)

def isZero (x : Binary64) : Bool := x.rank == 0

/-- The nearest whole number to a quotient; a half goes to the even neighbour. -/
def roundHalfEven (num den : Nat) : Nat :=
  let quotient := num / den
  let twice := 2 * (num % den)
  if twice < den then quotient
  else if den < twice then quotient + 1
  else if quotient % 2 = 0 then quotient else quotient + 1

def binade (num den : Nat) : Int :=
  let guess : Int := (num.log2 : Int) - den.log2
  if den * 2 ^ guess.toNat ≤ num * 2 ^ (-guess).toNat then guess else guess - 1

/-- The place of the magnitude nearest to a quotient; it may lie beyond the finite ones. -/
def nearestRank (num den : Nat) : Nat :=
  if num = 0 then 0 else
    let quantum := max (binade num den - 52) (-1074)
    (quantum + 1074).toNat * 2 ^ 52
      + roundHalfEven (num * 2 ^ (-quantum).toNat) (den * 2 ^ quantum.toNat)

def ofRatio? (negative : Bool) (num den : Nat) : Option Binary64 :=
  if h : nearestRank num den < 0x7ff0000000000000 then some ⟨negative, nearestRank num den, h⟩
  else none

def zero (negative : Bool) : Binary64 := ⟨negative, 0, by decide⟩

def withSign (x : Binary64) (negative : Bool) : Binary64 := { x with negative := negative }

/-- The rounded product with the number nearest to `10 ^ e`. -/
def timesPowerOfTen? (x : Binary64) (e : Nat) : Option Binary64 := do
  let power ← ofRatio? false (10 ^ e) 1
  ofRatio? x.negative (x.magnitude.1 * power.magnitude.1) (x.magnitude.2 * power.magnitude.2)

def overPowerOfTen? (x : Binary64) (e : Nat) : Option Binary64 := do
  let power ← ofRatio? false (10 ^ e) 1
  ofRatio? x.negative (x.magnitude.1 * power.magnitude.2) (x.magnitude.2 * power.magnitude.1)

end Binary64
end Storyline
