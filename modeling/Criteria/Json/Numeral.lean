import Criteria.Json
import Criteria.Number.Numeral
import Criteria.Number.Rounding

/-!
# Numbers in JSON texts

An integer that fits into 64 bits, with or without a sign, is exact. Every other number becomes a
double in two roundings: its first digits, as many as fit into 64 bits, and then its power of ten.
A number that is too large for a double is refused.
-/

namespace Criteria.Json

structure Numeral where
  negative : Bool
  whole : List Nat
  places : Option (List Nat)
  exponent : Option Int

def takeDigits? (cs : List Char) : Option (List Nat × List Char) :=
  let digits := (cs.takeWhile fun c => (decimalDigit? c).isSome).filterMap decimalDigit?
  if digits.isEmpty then none else some (digits, cs.drop digits.length)

def readPlaces? : List Char → Option (Option (List Nat) × List Char)
  | '.' :: cs => (takeDigits? cs).map fun (digits, rest) => (some digits, rest)
  | cs => some (none, cs)

def readExponent? : List Char → Option (Option Int)
  | [] => some none
  | e :: cs => if e = 'e' || e = 'E' then (readSigned? cs).map some else none

/-- Reads a number. Its whole part is zero or starts with another digit. -/
def readNumeral? (cs : List Char) : Option Numeral := do
  let negative := cs.head? == some '-'
  let (whole, cs) ← takeDigits? (if negative then cs.drop 1 else cs)
  if whole.head? = some 0 && whole.length ≠ 1 then none
  let (places, cs) ← readPlaces? cs
  return ⟨negative, whole, places, ← readExponent? cs⟩

structure Scaled where
  digits : Nat
  exponent : Int := 0
  /-- The digits that follow are too small to count. -/
  full : Bool := false

namespace Scaled

def fits (n : Nat) : Bool := n < Nat.pow 2 64

def addWhole (s : Scaled) (digit : Nat) : Scaled :=
  if !s.full && fits (s.digits * 10 + digit) then { s with digits := s.digits * 10 + digit }
  else { s with exponent := s.exponent + 1, full := true }

def addPlace (s : Scaled) (digit : Nat) : Scaled :=
  if !s.full && fits (s.digits * 10 + digit) then
    { s with digits := s.digits * 10 + digit, exponent := s.exponent - 1 }
  else { s with full := true }

end Scaled

def Numeral.value? (n : Numeral) : Option Json :=
  let whole := n.whole.foldl Scaled.addWhole ⟨0, 0, false⟩
  if n.places.isNone && n.exponent.isNone && !whole.full then
    if !n.negative then some (.integer whole.digits)
    else if whole.digits = 0 || Nat.pow 2 63 < whole.digits then
      some (.real ((Binary64.ofNat whole.digits).withSign true))
    else some (.integer (-whole.digits))
  else
    -- The places have a chance of their own to fit behind a whole part that was cut off.
    let all := (n.places.getD []).foldl Scaled.addPlace { whole with full := false }
    (Binary64.ofDigits? n.negative all.digits (all.exponent + n.exponent.getD 0)).map Json.real

end Criteria.Json
