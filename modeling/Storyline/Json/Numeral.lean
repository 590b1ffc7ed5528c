import Storyline.Json.Fault

/-!
Numbers as they stand in a text, and the value each has.

Without point and exponent a numeral that fits in 64 bits is a whole number; every other one is
real. A real number is made from a significand of 64 bits, the digits beyond it being dropped, and
one product or quotient by a power of ten, so it need not be the nearest to the decimal.
-/

namespace Storyline.Json

structure Numeral where
  negative : Bool
  whole : List Char
  fraction : Option (List Char)
  exponent : Option (Bool × List Char)
  deriving DecidableEq

namespace Numeral

def digitValue (c : Char) : Nat := c.toNat - '0'.toNat

/-- Takes digits into a significand as long as it fits in 64 bits; the second part is what is left
of the digits. -/
def accumulate (significand : Nat) : List Char → Nat × List Char
  | [] => (significand, [])
  | d :: rest =>
    let next := significand * 10 + digitValue d
    if next < 2 ^ 64 then accumulate next rest else (significand, d :: rest)

def digitsValue (digits : List Char) : Nat :=
  digits.foldl (fun n d => n * 10 + digitValue d) 0

/-- Divides by a power of ten, by at most the 308th at a time. -/
def scaleDown (x : Binary64) (tens : Nat) : Option Binary64 :=
  if tens ≤ 308 then x.overPowerOfTen? tens
  else if x.isZero then some x
  else (x.overPowerOfTen? 308).bind fun y => scaleDown y (tens - 308)
termination_by tens

def scale (x : Binary64) (tens : Int) : Option Binary64 :=
  if tens < 0 then scaleDown x tens.natAbs
  else if tens ≤ 308 then x.timesPowerOfTen? tens.natAbs
  else if x.isZero then some x else none

def realOf (negative : Bool) (significand : Nat) (tens : Int) : Except Fault Number :=
  match (Binary64.ofRatio? false significand 1).bind fun x => scale x tens with
  | some x => .ok (.real (x.withSign negative))
  | none => .error .numberOutOfRange

def exponentLimit : Nat := 2 ^ 31 - 1

/-- The value of a numeral with a significand read so far and the power of ten it counts. An
exponent beyond the limit makes zero, or a number that is out of range. -/
def withExponent (n : Numeral) (significand : Nat) (tens : Int) : Except Fault Number :=
  match n.exponent with
  | none => realOf n.negative significand tens
  | some (down, digits) =>
    let shift := digitsValue digits
    if exponentLimit < shift then
      if significand ≠ 0 ∧ ¬ down then .error .numberOutOfRange
      else .ok (.real (.zero n.negative))
    else realOf n.negative significand (if down then tens - shift else tens + shift)

/-- The value of a numeral. A negative zero is real. -/
def value (n : Numeral) : Except Fault Number :=
  let (significand, left) := accumulate 0 n.whole
  match n.fraction with
  | some digits =>
    let (significand, dropped) := accumulate significand digits
    n.withExponent significand (left.length - (digits.length - dropped.length : Nat))
  | none =>
    if n.exponent.isSome ∨ left ≠ [] then n.withExponent significand left.length
    else
      let signed : Int := if n.negative then -significand else significand
      if h : (-(2 ^ 63) ≤ signed ∧ signed < 2 ^ 64) ∧ ¬ (n.negative ∧ significand = 0) then
        .ok (.whole ⟨signed, h.1⟩)
      else realOf n.negative significand 0

end Numeral
end Storyline.Json
