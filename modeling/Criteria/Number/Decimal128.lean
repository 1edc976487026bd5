import Criteria.Number.Numeral

/-!
# Decimal floating point numbers of 34 digits

A decimal is stored as sixteen bytes: its sign, and either an exponent and a coefficient or the mark
of an infinity or a NaN. Many words stand for one number. A coefficient that has more than 34 digits
counts as zero, and what is behind the mark of an infinity or a NaN is kept without a meaning, but
for the bit that says whether a NaN signals. `1` and `1.0` differ in their exponents.

Reading a text never rounds a nonzero digit away: a text that would need it is refused.
-/

namespace Criteria

structure Decimal128 where
  bits : BitVec 128
deriving DecidableEq, Repr

/-- What a stored decimal stands for: `±coefficient · 10 ^ (biased - 6176)` if it is finite. -/
inductive DecimalNumber where
  | finite (negative : Bool) (coefficient : Fin (Nat.pow 10 34)) (biased : Fin 12288)
  | infinite (negative : Bool)
  | nan (negative signalling : Bool)
deriving DecidableEq, Repr

namespace Decimal128

def negative (d : Decimal128) : Bool := decide (Nat.pow 2 127 ≤ d.bits.toNat)

def magnitude (d : Decimal128) : Nat := d.bits.toNat % Nat.pow 2 127

def combination (d : Decimal128) : Nat := d.magnitude / Nat.pow 2 122

theorem biased_lt {d : Decimal128} (h : d.combination < 24) :
    d.magnitude / Nat.pow 2 113 < 12288 := by
  simp only [combination, Nat.pow_eq] at *
  omega

theorem shifted_biased_lt {d : Decimal128} (h : d.combination < 30) :
    d.magnitude / Nat.pow 2 111 - 49152 < 12288 := by
  simp only [combination, Nat.pow_eq] at *
  omega

def coefficient (d : Decimal128) : Fin (Nat.pow 10 34) :=
  if h : d.magnitude % Nat.pow 2 113 < Nat.pow 10 34 then ⟨_, h⟩ else ⟨0, by decide⟩

def decode (d : Decimal128) : DecimalNumber :=
  if h : d.combination < 24 then .finite d.negative d.coefficient ⟨_, biased_lt h⟩
  -- The exponent stands two bits lower here. The coefficient begins with the bits `100`, so it is
  -- always too large.
  else if h : d.combination < 30 then
    .finite d.negative ⟨0, by decide⟩ ⟨_, shifted_biased_lt h⟩
  else if d.combination = 30 then .infinite d.negative
  else .nan d.negative (d.magnitude / Nat.pow 2 121 % 2 == 1)

def pack (negative : Bool) (magnitude : Nat) : Decimal128 :=
  ⟨BitVec.ofNat 128 (magnitude + if negative then Nat.pow 2 127 else 0)⟩

def encode : DecimalNumber → Decimal128
  | .finite negative coefficient biased => pack negative (biased * Nat.pow 2 113 + coefficient)
  | .infinite negative => pack negative (30 * Nat.pow 2 122)
  | .nan negative signalling =>
    pack negative (31 * Nat.pow 2 122 + if signalling then Nat.pow 2 121 else 0)

theorem negative_pack {negative : Bool} {magnitude : Nat} (h : magnitude < Nat.pow 2 127) :
    (pack negative magnitude).negative = negative := by
  simp only [Nat.pow_eq] at h
  cases negative <;> simp [Decimal128.negative, pack] <;> omega

theorem magnitude_pack {negative : Bool} {magnitude : Nat} (h : magnitude < Nat.pow 2 127) :
    (pack negative magnitude).magnitude = magnitude := by
  simp only [Nat.pow_eq] at h
  cases negative <;> simp [Decimal128.magnitude, pack] <;> omega

/-- Every decimal has a word that stands for it. -/
theorem decode_encode (d : DecimalNumber) : (encode d).decode = d := by
  cases d with
  | finite negative coefficient biased =>
    have hc := coefficient.isLt
    have hb := biased.isLt
    simp only [Nat.pow_eq] at hc
    have hm : (biased * Nat.pow 2 113 + coefficient : Nat) < Nat.pow 2 127 := by
      simp only [Nat.pow_eq]
      omega
    have hk : (encode (.finite negative coefficient biased)).combination < 24 := by
      simp only [encode, combination, magnitude_pack hm, Nat.pow_eq]
      omega
    rw [decode, dif_pos hk]
    simp only [encode, negative_pack hm, Decimal128.coefficient, magnitude_pack hm]
    congr 1
    · have : (biased * Nat.pow 2 113 + coefficient : Nat) % Nat.pow 2 113 = coefficient := by
        simp only [Nat.pow_eq]
        omega
      simp [this, coefficient.isLt]
    · apply Fin.ext
      simp only [Nat.pow_eq]
      omega
  | infinite negative =>
    simp [encode, decode, combination, magnitude_pack, negative_pack]
  | nan negative signalling =>
    cases signalling <;> simp [encode, decode, combination, magnitude_pack, negative_pack]

end Decimal128

namespace DecimalNumber

def maxDigits : Nat := 34

def minExponent : Int := -6176

def maxExponent : Int := 6111

def exponentInRange (e : Int) : Option Int :=
  if -Int.pow 2 127 ≤ e ∧ e < Int.pow 2 127 then some e else none

def dropZeros? (digits : List Char) (keep : Nat) : Option (List Char) :=
  if (digits.drop keep).all (· == '0') then some (digits.take keep) else none

def fitWidth? (digits : List Char) (exponent : Int) : Option (List Char × Int) := do
  if digits.length ≤ maxDigits then return (digits, exponent)
  let kept ← dropZeros? digits maxDigits
  return (kept, ← exponentInRange (exponent + (digits.length - maxDigits : Nat)))

/-- Raises an exponent below the smallest one by dropping zeros; a zero only clamps. -/
def raiseExponent? (digits : List Char) (exponent : Int) : Option (List Char × Int) := do
  if minExponent ≤ exponent then return (digits, exponent)
  if digits = ['0'] then return (digits, minExponent)
  let excess := (minExponent - exponent).toNat
  if digits.length < excess then none
  else return (← dropZeros? digits (digits.length - excess), minExponent)

def lowerExponent? (digits : List Char) (exponent : Int) : Option (List Char × Int) :=
  if exponent ≤ maxExponent then some (digits, exponent)
  else if digits = ['0'] then some (digits, maxExponent)
  else
    let excess := (exponent - maxExponent).toNat
    if maxDigits < digits.length + excess then none
    else some (digits ++ List.replicate excess '0', maxExponent)

def joinPoint? (mantissa : List Char) (exponent : Int) : Option (List Char × Int) :=
  let whole := mantissa.takeWhile (· != '.')
  match mantissa.drop whole.length with
  | [] => some (mantissa, exponent)
  | _ :: places => do return (whole ++ places, ← exponentInRange (exponent - places.length))

def ofParts? (negative : Bool) (coefficient : Nat) (exponent : Int) : Option DecimalNumber :=
  if h : coefficient < Nat.pow 10 34 ∧ minExponent ≤ exponent ∧ exponent ≤ maxExponent then
    some (finite negative ⟨coefficient, h.1⟩ ⟨(exponent - minExponent).toNat, by
      have := h.2
      simp only [minExponent, maxExponent] at *
      omega⟩)
  else none

def readFinite? (negative : Bool) (cs : List Char) : Option DecimalNumber := do
  let mantissa := cs.takeWhile (· != 'e')
  let exponent ←
    match cs.drop mantissa.length with
    | [] => some 0
    | _ :: text => readBetween? (-Int.pow 2 127) (Int.pow 2 127 - 1) text
  let (joined, exponent) ← joinPoint? mantissa exponent
  let stripped := joined.dropWhile (· == '0')
  let digits := if stripped.isEmpty then ['0'] else stripped
  let (digits, exponent) ← fitWidth? digits exponent
  let (digits, exponent) ← raiseExponent? digits exponent
  let (digits, exponent) ← lowerExponent? digits exponent
  ofParts? negative (← readUnsigned? digits) exponent

def readMagnitude? (negative : Bool) (cs : List Char) : Option DecimalNumber :=
  let lower := cs.map Char.toLower
  match String.ofList lower with
  | "nan" => some (nan negative false)
  | "snan" => some (nan negative true)
  | "infinity" | "inf" => some (infinite negative)
  | _ => readFinite? negative lower

/-- Reads a decimal number, with an optional sign. The empty text is zero. -/
def ofText? (s : String) : Option DecimalNumber :=
  match s.toList with
  | '-' :: cs => readMagnitude? true cs
  | '+' :: cs => readMagnitude? false cs
  | cs => readMagnitude? false cs

def plainText (digits : List Char) (places : Nat) : List Char :=
  if places = 0 then digits
  else if places < digits.length then
    digits.take (digits.length - places) ++ '.' :: digits.drop (digits.length - places)
  else '0' :: '.' :: List.replicate (places - digits.length) '0' ++ digits

def scientificText (digits : List Char) (adjusted : Int) : List Char :=
  let tail := digits.drop 1
  digits.take 1 ++ (if tail.isEmpty then [] else '.' :: tail) ++ ['E'] ++
    (if 0 < adjusted then ['+'] else []) ++ (toString adjusted).toList

/-- Plain notation for whole coefficients and small fractions, scientific notation otherwise. A NaN
shows no sign. -/
def text : DecimalNumber → String
  | nan _ _ => "NaN"
  | infinite negative => if negative then "-Infinity" else "Infinity"
  | finite negative coefficient biased =>
    let exponent := (biased.val : Int) + minExponent
    let digits := Nat.toDigits 10 coefficient
    let adjusted := exponent + digits.length - 1
    let body :=
      if exponent ≤ 0 ∧ -6 ≤ adjusted then plainText digits (-exponent).toNat
      else scientificText digits adjusted
    String.ofList (if negative then '-' :: body else body)

end DecimalNumber

def Decimal128.ofText? (s : String) : Option Decimal128 := (DecimalNumber.ofText? s).map encode

def Decimal128.text (d : Decimal128) : String := d.decode.text

end Criteria
