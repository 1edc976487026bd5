/-!
# Decimal numerals

Integers as text: ASCII digits behind at most one sign. A sign needs a digit after it, and unsigned
numerals take no minus.
-/

namespace Criteria

def decimalDigit? (c : Char) : Option Nat :=
  if '0' ≤ c ∧ c ≤ '9' then some (c.toNat - '0'.toNat) else none

def hexDigit? (c : Char) : Option Nat :=
  if '0' ≤ c ∧ c ≤ '9' then some (c.toNat - '0'.toNat)
  else if 'a' ≤ c ∧ c ≤ 'f' then some (c.toNat - 'a'.toNat + 10)
  else if 'A' ≤ c ∧ c ≤ 'F' then some (c.toNat - 'A'.toNat + 10)
  else none

def ofDigitValues (base : Nat) (digits : List Nat) : Nat :=
  digits.foldl (fun n d => n * base + d) 0

def readDigits? (cs : List Char) : Option Nat :=
  if cs.isEmpty then none else (cs.mapM decimalDigit?).map (ofDigitValues 10)

def readHex? (cs : List Char) : Option Nat :=
  if cs.isEmpty then none else (cs.mapM hexDigit?).map (ofDigitValues 16)

/-- Reads an unsigned numeral, which may carry a plus. -/
def readUnsigned? : List Char → Option Nat
  | '+' :: cs => readDigits? cs
  | cs => readDigits? cs

def readUInt64? (cs : List Char) : Option UInt64 :=
  ((readUnsigned? cs).filter (· < Nat.pow 2 64)).map UInt64.ofNat

def readSigned? : List Char → Option Int
  | '+' :: cs => (readDigits? cs).map Int.ofNat
  | '-' :: cs => (readDigits? cs).map fun n => -(n : Int)
  | cs => (readDigits? cs).map Int.ofNat

def readBetween? (low high : Int) (cs : List Char) : Option Int :=
  (readSigned? cs).filter fun n => low ≤ n && n ≤ high

/-- A number in a base up to sixteen, padded on the left with zeros to a least width. -/
def padDigits (base width n : Nat) : List Char :=
  let digits := Nat.toDigits base n
  List.replicate (width - digits.length) '0' ++ digits

end Criteria
