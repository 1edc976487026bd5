import Criteria.Json.Numeral

/-!
# Reading JSON texts

A text is cut into tokens, and the tokens drive a machine with a stack of open arrays and objects.
Arrays and objects may nest up to a limit. Why a text is refused is not told.
-/

namespace Criteria.Json

inductive Token where
  | openArray
  | closeArray
  | openObject
  | closeObject
  | comma
  | colon
  | string (value : String)
  | scalar (value : Json)

def isBlank (c : Char) : Bool := c == ' ' || c == '\n' || c == '\t' || c == '\r'

def mark? (c : Char) : Option Token :=
  match c with
  | '[' => some .openArray
  | ']' => some .closeArray
  | '\x7b' => some .openObject
  | '\x7d' => some .closeObject
  | ',' => some .comma
  | ':' => some .colon
  | _ => none

def inWord (c : Char) : Bool := c.isAlphanum || c == '+' || c == '-' || c == '.'

def scalar? (word : List Char) : Option Json :=
  match word with
  | ['n', 'u', 'l', 'l'] => some .null
  | ['t', 'r', 'u', 'e'] => some (.boolean true)
  | ['f', 'a', 'l', 's', 'e'] => some (.boolean false)
  | _ => (readNumeral? word).bind Numeral.value?

/-- Splits a text behind an opening quote into the characters before the closing quote and the rest.
A control character needs an escape. -/
def splitQuoted? (before : List Char) : List Char → Option (List Char × List Char)
  | '"' :: rest => some (before.reverse, rest)
  | '\\' :: c :: rest => splitQuoted? (c :: '\\' :: before) rest
  | c :: rest => if c.toNat < 0x20 then none else splitQuoted? (c :: before) rest
  | [] => none

theorem length_lt_of_splitQuoted? {before cs quoted rest : List Char}
    (h : splitQuoted? before cs = some (quoted, rest)) : rest.length < cs.length := by
  fun_induction splitQuoted? before cs with
  | case1 => simp_all
  | case2 before c rest ih => exact Nat.lt_of_lt_of_le (ih h) (by simp; omega)
  | case3 => simp at h
  | case4 before c rest _ _ _ ih => exact Nat.lt_of_lt_of_le (ih h) (by simp)
  | case5 => simp at h

def simpleEscape? (c : Char) : Option Char :=
  match c with
  | '"' | '\\' | '/' => some c
  | 'b' => some '\x08'
  | 'f' => some '\x0c'
  | 'n' => some '\n'
  | 'r' => some '\r'
  | 't' => some '\t'
  | _ => none

def isHighSurrogate (unit : Nat) : Bool := 0xd800 ≤ unit && unit < 0xdc00

def isLowSurrogate (unit : Nat) : Bool := 0xdc00 ≤ unit && unit < 0xe000

def joinSurrogates (high low : Nat) : Char :=
  Char.ofNat (0x10000 + (high - 0xd800) * 0x400 + (low - 0xdc00))

/-- Resolves escapes. Two surrogates make one character and may not stand alone. -/
def unescape? (before : List Char) : List Char → Option (List Char)
  | [] => some before.reverse
  | '\\' :: 'u' :: a :: b :: c :: d :: rest =>
    match readHex? [a, b, c, d] with
    | none => none
    | some unit =>
      if isHighSurrogate unit then
        match rest with
        | '\\' :: 'u' :: e :: f :: g :: h :: rest =>
          match readHex? [e, f, g, h] with
          | none => none
          | some low =>
            if isLowSurrogate low then unescape? (joinSurrogates unit low :: before) rest else none
        | _ => none
      else if isLowSurrogate unit then none
      else unescape? (Char.ofNat unit :: before) rest
  | '\\' :: c :: rest =>
    match simpleEscape? c with
    | some c => unescape? (c :: before) rest
    | none => none
  | c :: rest => unescape? (c :: before) rest

def tokens? (before : List Token) (cs : List Char) : Option (List Token) :=
  match cs with
  | [] => some before.reverse
  | c :: rest =>
    if isBlank c then tokens? before rest
    else match mark? c with
    | some token => tokens? (token :: before) rest
    | none =>
      if c = '"' then
        match _h : splitQuoted? [] rest with
        | none => none
        | some (quoted, following) =>
          match unescape? [] quoted with
          | none => none
          | some chars => tokens? (.string (String.ofList chars) :: before) following
      else
        match scalar? (c :: rest.takeWhile inWord) with
        | none => none
        | some value => tokens? (.scalar value :: before) (rest.dropWhile inWord)
termination_by cs.length
decreasing_by
  · simp
  · simp
  · exact Nat.lt_succ_of_lt (length_lt_of_splitQuoted? (by assumption))
  · exact Nat.lt_succ_of_le ((List.dropWhile_sublist _).length_le)

inductive Frame where
  | items (before : List Json)
  | fields (before : List (String × Json)) (name : String)

inductive Progress where
  | value (stack : List Frame)
  /-- The first item of an array, or its end. -/
  | firstItem (stack : List Frame)
  | firstName (stack : List Frame)
  | nextName (before : List (String × Json)) (stack : List Frame)
  | colon (before : List (String × Json)) (name : String) (stack : List Frame)
  | complete (value : Json) (stack : List Frame)

namespace Progress

def start? (limit : Nat) (stack : List Frame) : Token → Option Progress
  | .scalar v => some (.complete v stack)
  | .string s => some (.complete (.string s) stack)
  | .openArray => if stack.length + 1 < limit then some (.firstItem stack) else none
  | .openObject => if stack.length + 1 < limit then some (.firstName stack) else none
  | _ => none

def step? (limit : Nat) : Progress → Token → Option Progress
  | .value stack, token => start? limit stack token
  | .firstItem stack, .closeArray => some (.complete (.array []) stack)
  | .firstItem stack, token => start? limit (.items [] :: stack) token
  | .firstName stack, .closeObject => some (.complete (.object []) stack)
  | .firstName stack, .string s => some (.colon [] s stack)
  | .nextName before stack, .string s => some (.colon before s stack)
  | .colon before name stack, .colon => some (.value (.fields before name :: stack))
  | .complete v (.items before :: stack), .comma => some (.value (.items (v :: before) :: stack))
  | .complete v (.items before :: stack), .closeArray =>
    some (.complete (.array (v :: before).reverse) stack)
  | .complete v (.fields before name :: stack), .comma =>
    some (.nextName (insertField name v before) stack)
  | .complete v (.fields before name :: stack), .closeObject =>
    some (.complete (.object (insertField name v before)) stack)
  | _, _ => none

end Progress

/-- Reads the value that tokens spell. Less than `limit` arrays and objects may be open at once. -/
def ofTokens? (limit : Nat) (tokens : List Token) : Option Json :=
  match tokens.foldlM (Progress.step? limit) (.value []) with
  | some (.complete v []) => some v
  | _ => none

def read? (limit : Nat) (text : String) : Option Json :=
  (tokens? [] text.toList).bind (ofTokens? limit)

end Criteria.Json
