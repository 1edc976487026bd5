/-!
# Double precision numbers as words

A double is the 64 bits of its interchange format. Its fields are read off the word by division, so
that the value of a finite double, `±significand · 2 ^ exponent`, is exact. The order below compares
words as signed magnitudes. Cutting a double off at the point gives a double again, or an integer of
64 bits, which is kept inside its range.
-/

namespace Criteria

structure Binary64 where
  bits : UInt64
deriving DecidableEq, Repr

namespace Binary64

def negative (d : Binary64) : Bool := decide (Nat.pow 2 63 ≤ d.bits.toNat)

def biasedExponent (d : Binary64) : Nat := d.bits.toNat / Nat.pow 2 52 % Nat.pow 2 11

def fraction (d : Binary64) : Nat := d.bits.toNat % Nat.pow 2 52

/-- All bits but the sign. Among numbers of one sign this grows with the absolute value. -/
def magnitude (d : Binary64) : Nat := d.bits.toNat % Nat.pow 2 63

def isNaN (d : Binary64) : Bool := d.biasedExponent == 2047 && d.fraction != 0

def isInfinite (d : Binary64) : Bool := d.biasedExponent == 2047 && d.fraction == 0

def isFinite (d : Binary64) : Bool := d.biasedExponent != 2047

def significand (d : Binary64) : Nat :=
  if d.biasedExponent = 0 then d.fraction else Nat.pow 2 52 + d.fraction

def exponent (d : Binary64) : Int := (max d.biasedExponent 1 : Nat) - 1075

def zero : Binary64 := ⟨0⟩

def infinity : Binary64 := ⟨0x7ff0000000000000⟩

def nan : Binary64 := ⟨0x7ff8000000000000⟩

def neg (d : Binary64) : Binary64 := ⟨d.bits ^^^ 0x8000000000000000⟩

def withSign (negative : Bool) (d : Binary64) : Binary64 := if negative then d.neg else d

/-- The place of a number in the order; both zeros share a place. Not meaningful for a NaN. -/
def rank (d : Binary64) : Int := if d.negative then -(d.magnitude : Int) else d.magnitude

def compare? (x y : Binary64) : Option Ordering :=
  if x.isNaN || y.isNaN then none else some (compare x.rank y.rank)

/-- Equality as numbers: `0` equals `-0`, and a NaN equals nothing. -/
def numericEq (x y : Binary64) : Bool := x.compare? y == some .eq

def atLeast (x y : Binary64) : Bool := (x.compare? y).any Ordering.isGE

def below (x y : Binary64) : Bool := (x.compare? y).any Ordering.isLT

def bitsBehindPoint (d : Binary64) : Nat :=
  if d.biasedExponent < 1023 then 63 else 1075 - d.biasedExponent

/-- A double cut off at the point, toward zero. The sign stays, also on a zero. -/
def trunc (d : Binary64) : Binary64 :=
  ⟨UInt64.ofNat (d.bits.toNat - d.bits.toNat % Nat.pow 2 d.bitsBehindPoint)⟩

def wholeMagnitude (d : Binary64) : Nat :=
  match d.exponent with
  | .ofNat e => d.significand * Nat.pow 2 e
  | .negSucc e => d.significand / Nat.pow 2 (e + 1)

def whole (d : Binary64) : Int :=
  if d.negative then -(d.wholeMagnitude : Int) else d.wholeMagnitude

/-- A double cut off at the point as an integer of 64 bits. Out of their range it is the last one on
its side, and a NaN is zero. -/
def toInt64 (d : Binary64) : Int64 :=
  if d.isNaN then 0
  else if d.isInfinite then (if d.negative then Int64.minValue else Int64.maxValue)
  else Int64.ofIntClamp d.whole

def intLimit : Binary64 := ⟨0x43e0000000000000⟩

end Binary64

end Criteria
