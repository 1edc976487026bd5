import Criteria.Number.Binary64

/-!
# Rounding to double precision

Every way into a double goes through `ofRatio`, which rounds an exact quotient to the nearest
double, ties to the even significand, in natural number arithmetic. `ofDecimal` reads exact decimals
with it; `ofDigits` rounds twice, once for the digits and once for the power of ten.
-/

namespace Criteria.Binary64

def divHalfEven (num den : Nat) : Nat :=
  let q := num / den
  let r := num % den
  if 2 * r < den then q
  else if den < 2 * r then q + 1
  else if q % 2 = 0 then q else q + 1

def scaledQuotient (num den : Nat) (e : Int) : Nat :=
  match e with
  | .ofNat k => divHalfEven num (den * Nat.pow 2 k)
  | .negSucc k => divHalfEven (num * Nat.pow 2 (k + 1)) den

/-- The exponent of the last bit that a double near `num / den` has: 53 bits lie above it, or fewer
among the subnormals. -/
def unitExponent (num den : Nat) : Int :=
  let guess : Int := (num.log2 : Int) - den.log2 - 52
  let e :=
    match guess with
    | .ofNat k => if num < den * Nat.pow 2 (k + 52) then guess - 1 else guess
    | .negSucc k => if num * Nat.pow 2 (k + 1) < den * Nat.pow 2 52 then guess - 1 else guess
  max e (-1074)

/-- The nearest double to `num / den`, ties to even; infinite when even the largest finite double is
too small. A carry out of the significand runs into the exponent bits by itself. -/
def ofRatio (negative : Bool) (num den : Nat) : Binary64 :=
  if num = 0 || den = 0 then zero.withSign negative
  else
    let e := unitExponent num den
    let word := (e + 1074).toNat * Nat.pow 2 52 + scaledQuotient num den e
    (if 0x7ff0000000000000 ≤ word then infinity else ⟨UInt64.ofNat word⟩).withSign negative

def ofNat (n : Nat) : Binary64 := ofRatio false n 1

def toRatio (d : Binary64) : Nat × Nat :=
  match d.exponent with
  | .ofNat e => (d.significand * Nat.pow 2 e, 1)
  | .negSucc e => (d.significand, Nat.pow 2 (e + 1))

/-- The rounded difference of two finite doubles. It is `-0` only for `-0` less `0`. -/
def sub (x y : Binary64) : Binary64 :=
  let (m, j) := x.toRatio
  let (n, k) := y.toRatio
  let left : Int := if x.negative then -(m * k : Nat) else (m * k : Nat)
  let right : Int := if y.negative then -(n * j : Nat) else (n * j : Nat)
  let negative := if left = right then x.negative && !y.negative else decide (left < right)
  ofRatio negative (left - right).natAbs (j * k)

def mulMagnitude (x y : Binary64) : Binary64 :=
  ofRatio false (x.toRatio.1 * y.toRatio.1) (x.toRatio.2 * y.toRatio.2)

def divMagnitude (x y : Binary64) : Binary64 :=
  ofRatio false (x.toRatio.1 * y.toRatio.2) (x.toRatio.2 * y.toRatio.1)

def ofDecimal (negative : Bool) (digits width : Nat) (exp10 : Int) : Binary64 :=
  if digits = 0 then zero.withSign negative
  else if 320 < exp10 + width then infinity.withSign negative
  else if exp10 + width < -340 then zero.withSign negative
  else match exp10 with
    | .ofNat k => ofRatio negative (digits * Nat.pow 10 k) 1
    | .negSucc k => ofRatio negative digits (Nat.pow 10 (k + 1))

def maxPowerOfTen : Nat := 308

def powerOfTen (k : Nat) : Binary64 := ofNat (Nat.pow 10 k)

def scaleDown (d : Binary64) (n : Nat) : Binary64 :=
  if n ≤ maxPowerOfTen then d.divMagnitude (powerOfTen n)
  else if d = zero then d
  else scaleDown (d.divMagnitude (powerOfTen maxPowerOfTen)) (n - maxPowerOfTen)
termination_by n
decreasing_by
  simp only [maxPowerOfTen] at *
  omega

/-- `digits · 10 ^ exp10`, with the digits rounded to a double before the power of ten is applied.
It has no answer when the number is too large for a double. -/
def ofDigits? (negative : Bool) (digits : Nat) (exp10 : Int) : Option Binary64 :=
  let d := ofNat digits
  let scaled : Option Binary64 :=
    match exp10 with
    | .ofNat k =>
      if k ≤ maxPowerOfTen then
        let product := d.mulMagnitude (powerOfTen k)
        if product.isInfinite then none else some product
      else if d = zero then some d
      else none
    | .negSucc k => some (d.scaleDown (k + 1))
  scaled.map (·.withSign negative)

end Criteria.Binary64
