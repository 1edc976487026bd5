import Criteria.Number.Rounding

/-!
# The shortest decimal text of a double

Of all decimals that round to a double, the one with the fewest digits is written, the nearest of
them when there are several, the larger on a tie. The text is positional: it has no exponent and no
point behind a whole number.
-/

namespace Criteria

def decimalWidth (n : Nat) : Nat := (Nat.toDigits 10 n).length

structure Decimal where
  digits : Nat
  exp10 : Int
deriving DecidableEq, Repr

namespace Decimal

def trim (d : Decimal) : Nat → Decimal
  | 0 => d
  | fuel + 1 =>
    if d.digits ≠ 0 ∧ d.digits % 10 = 0 then trim ⟨d.digits / 10, d.exp10 + 1⟩ fuel else d

def positional (d : Decimal) : String :=
  let digits := Nat.toDigits 10 d.digits
  match d.exp10 with
  | .ofNat k => String.ofList (digits ++ List.replicate k '0')
  | .negSucc k =>
    let places := k + 1
    if places < digits.length then
      let whole := digits.length - places
      String.ofList (digits.take whole ++ '.' :: digits.drop whole)
    else String.ofList ('0' :: '.' :: List.replicate (places - digits.length) '0' ++ digits)

end Decimal

namespace Binary64

/-- The decimals that round to a positive double lie between `low / den` and `high / den`; `value /
den` is the double itself. The ends belong to the interval iff the significand is even. -/
structure RoundingInterval where
  low : Nat
  value : Nat
  high : Nat
  den : Nat
  closed : Bool
deriving Repr

/-- Half the gap to the neighbours on either side. Below a power of two the gap is half as wide. -/
def roundingInterval (d : Binary64) : RoundingInterval :=
  let m := d.significand
  let below := if d.fraction = 0 ∧ d.biasedExponent ≠ 0 then 1 else 2
  let closed := m % 2 == 0
  match d.exponent - 2 with
  | .ofNat e =>
    ⟨(4 * m - below) * Nat.pow 2 e, 4 * m * Nat.pow 2 e, (4 * m + 2) * Nat.pow 2 e, 1, closed⟩
  | .negSucc e => ⟨4 * m - below, 4 * m, 4 * m + 2, Nat.pow 2 (e + 1), closed⟩

def RoundingInterval.contains (i : RoundingInterval) (c scale : Nat) : Bool :=
  if i.closed then i.low * scale ≤ c * i.den && c * i.den ≤ i.high * scale
  else i.low * scale < c * i.den && c * i.den < i.high * scale

def pointPosition (num den : Nat) : Int :=
  if den ≤ num then decimalWidth (num / den) else 1 - (decimalWidth (den / num) : Int)

def RoundingInterval.atWidth? (i : RoundingInterval) (width : Nat) : Option Decimal :=
  let exp10 := pointPosition i.value i.den - width
  let (scale, unit) : Nat × Nat :=
    match exp10 with
    | .ofNat k => (1, Nat.pow 10 k)
    | .negSucc k => (Nat.pow 10 (k + 1), 1)
  let down := i.value * scale / (i.den * unit)
  let remainder := i.value * scale % (i.den * unit)
  let up := down + 1
  match i.contains (down * unit) scale, i.contains (up * unit) scale with
  | true, true => some ⟨if i.den * unit ≤ 2 * remainder then up else down, exp10⟩
  | true, false => some ⟨down, exp10⟩
  | false, true => some ⟨up, exp10⟩
  | false, false => none

def maxWidth : Nat := 17

/-- The shortest decimal that rounds to a positive finite double. -/
def shortest (d : Binary64) : Decimal :=
  let i := d.roundingInterval
  let found := (List.range maxWidth).findSome? fun n => i.atWidth? (n + 1)
  (found.getD ⟨0, 0⟩).trim (maxWidth + 1)

def text (d : Binary64) : String :=
  if d.isNaN then "NaN"
  else
    let body :=
      if d.isInfinite then "inf"
      else if d.significand = 0 then "0"
      else d.shortest.positional
    if d.negative then "-" ++ body else body

end Binary64

end Criteria
