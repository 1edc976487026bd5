import Criteria.Number.Numeral

/-!
# Instants and calendar dates

An instant is a count of milliseconds since the start of 1970, in universal time. Dates follow the
Gregorian calendar in both directions, with a year 0.
-/

namespace Criteria.Calendar

structure Date where
  year : Int
  month : Nat
  day : Nat
deriving DecidableEq, Repr

def isLeapYear (year : Int) : Bool :=
  year % 4 == 0 && (year % 100 != 0 || year % 400 == 0)

def monthLength (year : Int) (month : Nat) : Nat :=
  match month with
  | 2 => if isLeapYear year then 29 else 28
  | 4 | 6 | 9 | 11 => 30
  | _ => 31

def Date.isValid (d : Date) : Bool :=
  1 ≤ d.month && d.month ≤ 12 && 1 ≤ d.day && d.day ≤ monthLength d.year d.month

def epochOffset : Int := 719468

/-- Days since the first of January 1970. Years are counted from March, so that the leap day is the
last day of its year and months of 30 and 31 days alternate in a fixed pattern. -/
def Date.toDays (d : Date) : Int :=
  let year := if d.month ≤ 2 then d.year - 1 else d.year
  let month : Int := if d.month ≤ 2 then d.month + 9 else d.month - 3
  let dayOfYear := (153 * month + 2) / 5 + d.day - 1
  year * 365 + year / 4 - year / 100 + year / 400 + dayOfYear - epochOffset

def Date.ofDays (days : Int) : Date :=
  let shifted := days + epochOffset
  let era := shifted / 146097
  let dayOfEra := shifted % 146097
  let yearOfEra :=
    (dayOfEra - dayOfEra / 1460 + dayOfEra / 36524 - dayOfEra / 146096) / 365
  let dayOfYear := dayOfEra - (365 * yearOfEra + yearOfEra / 4 - yearOfEra / 100)
  let month := (5 * dayOfYear + 2) / 153
  let day := dayOfYear - (153 * month + 2) / 5 + 1
  let civilMonth := if month < 10 then month + 3 else month - 9
  let year := yearOfEra + era * 400
  ⟨if civilMonth ≤ 2 then year + 1 else year, civilMonth.toNat, day.toNat⟩

def millisPerDay : Int := 86400000

def yearText (year : Int) : List Char :=
  let digits := padDigits 10 4 year.natAbs
  if year < 0 then '-' :: digits else digits

def fractionText (millis : Nat) : List Char :=
  let kept := ((padDigits 10 3 millis).reverse.dropWhile (· == '0')).reverse
  if kept.isEmpty then ['0'] else kept

/-- The text of an instant in universal time; the hour is not padded. An instant whose year has more
than four digits shows its milliseconds instead. -/
def instantText (millis : Int) : String :=
  let date := Date.ofDays (millis / millisPerDay)
  if date.year < -9999 ∨ 9999 < date.year then toString millis
  else
    let time := (millis % millisPerDay).toNat
    let second := time / 1000
    String.ofList <|
      yearText date.year ++ '-' :: padDigits 10 2 date.month ++ '-' :: padDigits 10 2 date.day ++
      ' ' :: padDigits 10 1 (second / 3600) ++ ':' :: padDigits 10 2 (second / 60 % 60) ++
      ':' :: padDigits 10 2 (second % 60) ++ '.' :: fractionText (time % 1000) ++
      " +00:00:00".toList

def readFixed? (count : Nat) (cs : List Char) : Option (Nat × List Char) :=
  let digits := cs.take count
  if digits.length = count then (readDigits? digits).map (·, cs.drop count) else none

def expect? (c : Char) : List Char → Option (List Char)
  | d :: rest => if d = c then some rest else none
  | [] => none

/-- Digits behind a point, as nanoseconds; digits past the ninth do not count. -/
def readNanos? : List Char → Option (Nat × List Char)
  | '.' :: rest =>
    let digits := rest.takeWhile fun c => (decimalDigit? c).isSome
    let padded := (digits ++ List.replicate 9 '0').take 9
    if digits.isEmpty then none
    else (readDigits? padded).map (·, rest.drop digits.length)
  | cs => some (0, cs)

def readZone? : List Char → Option Int
  | ['Z'] | ['z'] => some 0
  | sign :: rest => do
    let (hour, rest) ← readFixed? 2 rest
    let (minute, rest) ← readFixed? 2 (← expect? ':' rest)
    let seconds : Int := hour * 3600 + minute * 60
    if rest ≠ [] ∨ 23 < hour ∨ 59 < minute then none
    else if sign = '+' then some seconds
    else if sign = '-' then some (-seconds)
    else none
  | [] => none

def dropSeparator? : List Char → Option (List Char)
  | c :: rest => if c.toNat < 128 then some rest else none
  | [] => none

def endsMonth (second : Int) : Bool :=
  let date := Date.ofDays (second / 86400)
  second % 86400 == 86399 && date.day == monthLength date.year date.month

/-- Reads a timestamp such as `2020-01-31T12:00:00.5+01:00` into milliseconds, cut off toward zero.
Any one character may stand between date and time. A second numbered 60 is read as the last
nanosecond of the minute, and only at the end of a month in universal time. -/
def readInstant? (cs : List Char) : Option Int := do
  let (year, cs) ← readFixed? 4 cs
  let (month, cs) ← readFixed? 2 (← expect? '-' cs)
  let (day, cs) ← readFixed? 2 (← expect? '-' cs)
  let (hour, cs) ← readFixed? 2 (← dropSeparator? cs)
  let (minute, cs) ← readFixed? 2 (← expect? ':' cs)
  let (second, cs) ← readFixed? 2 (← expect? ':' cs)
  let (nanos, cs) ← readNanos? cs
  let zone ← readZone? cs
  let date : Date := ⟨year, month, day⟩
  let leap := second == 60
  let second := if leap then 59 else second
  let nanos := if leap then 999999999 else nanos
  if !date.isValid || 23 < hour || 59 < minute || 59 < second then none
  let utc : Int := date.toDays * 86400 + hour * 3600 + minute * 60 + second - zone
  if leap && !endsMonth utc then none
  return (utc * 1000000000 + nanos).tdiv 1000000

end Criteria.Calendar
