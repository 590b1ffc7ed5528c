import Storyline.Binary64

/-!
The fewest decimal digits that read back as a number, and their spelling.

Of the decimal grids with one to seventeen digits the first with a point in the interval that
rounds to the number is taken, and of two such points the nearer one.
-/

namespace Storyline.Binary64

/-- `n · 2 ^ twos · 10 ^ tens` as a fraction. -/
def fraction (n : Nat) (twos tens : Int) : Nat × Nat :=
  (n * 2 ^ twos.toNat * 10 ^ tens.toNat, 2 ^ (-twos).toNat * 10 ^ (-tens).toNat)

def atMost (a b : Nat × Nat) : Bool := a.1 * b.2 ≤ b.1 * a.2

def below (a b : Nat × Nat) : Bool := a.1 * b.2 < b.1 * a.2

/-- Whether a decimal rounds to the magnitude of `x`: it lies between the middles towards the two
neighbours, the middles included when the significand is even. -/
def readsBack (x : Binary64) (digits : Nat) (tens : Int) : Bool :=
  let m := x.significand
  let lower := fraction (if m = 2 ^ 52 ∧ -1074 < x.exponent then 4 * m - 1 else 4 * m - 2)
    (x.exponent - 2) 0
  let upper := fraction (4 * m + 2) (x.exponent - 2) 0
  let point := fraction digits 0 tens
  if m % 2 = 0 then atMost lower point && atMost point upper
  else below lower point && below point upper

def leadingZeros (num den : Nat) : Nat → Nat
  | 0 => 0
  | limit + 1 => if den ≤ num * 10 then 0 else leadingZeros (num * 10) den limit + 1

/-- The least `p` with the fraction below `10 ^ p`, for positive fractions. -/
def decimalPoint (num den : Nat) : Int :=
  if den ≤ num then (Nat.toDigits 10 (num / den)).length else -(leadingZeros num den 400 : Nat)

/-- The point of the grid of `count` digits that is nearest to `x` among those that read back. -/
def gridPoint? (x : Binary64) (count : Nat) : Option (Nat × Int) :=
  let v := x.magnitude
  let tens := decimalPoint v.1 v.2 - count
  let lower := v.1 * 10 ^ (-tens).toNat / (v.2 * 10 ^ tens.toNat)
  let upper := lower + 1
  match readsBack x lower tens, readsBack x upper tens with
  | false, false => none
  | true, false => some (lower, tens)
  | false, true => some (upper, tens)
  | true, true =>
    let middle := fraction (lower + upper) 0 tens
    let twice := (2 * v.1, v.2)
    if below twice middle then some (lower, tens)
    else if below middle twice then some (upper, tens)
    else some (if lower % 2 = 0 then lower else upper, tens)

def shortestFrom (x : Binary64) (count : Nat) : Nat → Nat × Int
  | 0 => (x.significand, 0)
  | more + 1 =>
    match gridPoint? x count with
    | some point => point
    | none => shortestFrom x (count + 1) more

def shortest (x : Binary64) : Nat × Int := shortestFrom x 1 17

def dropZeros (digits : Nat) (tens : Int) : Nat → Nat × Int
  | 0 => (digits, tens)
  | limit + 1 =>
    if digits ≠ 0 ∧ digits % 10 = 0 then dropZeros (digits / 10) (tens + 1) limit
    else (digits, tens)

def decimal (n : Nat) : List Char := Nat.toDigits 10 n

/-- Spells digits and a power of ten. With the point at `place` from the left of the digits,
places above -5 and up to 16 are written out with at least one digit after the point; all others
have a signed exponent. -/
def spell (digits : Nat) (tens : Int) : List Char :=
  let ds := decimal digits
  let place := ds.length + tens
  if 0 ≤ tens ∧ place ≤ 16 then
    ds ++ List.replicate tens.toNat '0' ++ ['.', '0']
  else if 0 < place ∧ place ≤ 16 then
    ds.take place.toNat ++ '.' :: ds.drop place.toNat
  else if -5 < place ∧ place ≤ 0 then
    ['0', '.'] ++ List.replicate (-place).toNat '0' ++ ds
  else
    let mantissa := match ds with
      | [] => []
      | [d] => [d]
      | d :: rest => d :: '.' :: rest
    let shift := place - 1
    mantissa ++ 'e' :: (if shift < 0 then '-' else '+') :: decimal shift.natAbs

def written (x : Binary64) : List Char :=
  let sign := if x.negative then ['-'] else []
  if x.isZero then sign ++ ['0', '.', '0']
  else
    let point := x.shortest
    let trimmed := dropZeros point.1 point.2 20
    sign ++ spell trimmed.1 trimmed.2

end Storyline.Binary64
