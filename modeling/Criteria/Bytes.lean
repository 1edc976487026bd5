import Criteria.Number.Numeral

/-!
# Bytes as text

In base 64 three bytes become four letters. The last group is padded to four letters, and its unused
bits are zero; reading insists on both, so each byte string has one text. Hexadecimal digits come
two for each byte, and are read in either case.
-/

namespace Criteria.Base64

def alphabet : List Char :=
  "ABCDEFGHIJKLMNOPQRSTUVWXYZabcdefghijklmnopqrstuvwxyz0123456789+/".toList

def letter (n : Nat) : Char := alphabet.getD n 'A'

def sextet? (c : Char) : Option Nat := alphabet.findIdx? (· == c)

def encodeChars : List UInt8 → List Char
  | [] => []
  | [a] =>
    let n := a.toNat * 16
    [letter (n / 64), letter (n % 64), '=', '=']
  | [a, b] =>
    let n := (a.toNat * 256 + b.toNat) * 4
    [letter (n / 4096), letter (n / 64 % 64), letter (n % 64), '=']
  | a :: b :: c :: rest =>
    let n := (a.toNat * 256 + b.toNat) * 256 + c.toNat
    letter (n / 262144) :: letter (n / 4096 % 64) :: letter (n / 64 % 64) :: letter (n % 64)
      :: encodeChars rest

def encode (bytes : List UInt8) : String := String.ofList (encodeChars bytes)

def decode? : List Char → Option (List UInt8)
  | [] => some []
  | [p, q, '=', '='] => do
    let n := (← sextet? p) * 64 + (← sextet? q)
    if n % 16 = 0 then some [UInt8.ofNat (n / 16)] else none
  | [p, q, r, '='] => do
    let n := ((← sextet? p) * 64 + (← sextet? q)) * 64 + (← sextet? r)
    if n % 4 = 0 then some [UInt8.ofNat (n / 1024), UInt8.ofNat (n / 4)] else none
  | p :: q :: r :: s :: rest => do
    let n := (((← sextet? p) * 64 + (← sextet? q)) * 64 + (← sextet? r)) * 64 + (← sextet? s)
    return UInt8.ofNat (n / 65536) :: UInt8.ofNat (n / 256) :: UInt8.ofNat n :: (← decode? rest)
  | _ => none

end Criteria.Base64

namespace Criteria.Hex

def encodeByte (b : UInt8) : List Char := padDigits 16 2 b.toNat

def encode (bytes : List UInt8) : String := String.ofList (bytes.flatMap encodeByte)

/-- Reads digits of either case, two for each byte. -/
def decode? : List Char → Option (List UInt8)
  | [] => some []
  | [_] => none
  | high :: low :: rest => do
    let byte := UInt8.ofNat ((← hexDigit? high) * 16 + (← hexDigit? low))
    return byte :: (← decode? rest)

end Criteria.Hex
