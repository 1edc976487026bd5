import Criteria.Pattern.Syntax
import Criteria.Unicode.CaseFolding
import Criteria.Unicode.Lookup

/-!
# Escapes and classes with a name

What a backslash introduces: a character, a class or an assertion. Every function takes the text
after what it has read already and answers with what is left, or with nothing if the text is wrong.
-/

namespace Criteria.Pattern

inductive Escape where
  /-- A character. `byteForm` marks the form with exactly two hexadecimal digits. -/
  | literal (c : Char) (byteForm : Bool)
  | set (set : CharSet)
  | assertion (condition : Assertion)

def dropSpace : Bool → List Char → List Char
  | _, [] => []
  | true, c :: rest => dropSpace (c != '\n') rest
  | false, c :: rest =>
    if Unicode.Property.whiteSpace.containsChar c then dropSpace false rest
    else if c == '#' then dropSpace true rest
    else c :: rest

def skip (flags : Flags) (cs : List Char) : List Char :=
  if flags.verbose then dropSpace false cs else cs

def foldCase (flags : Flags) (s : CharSet) : CharSet :=
  if !flags.caseInsensitive then s
  else if flags.unicode then Unicode.CaseFolding.close s
  else Unicode.CaseFolding.closeAscii s

/-- The complement of a set if asked for. Without scripts beyond ASCII a complement would hold bytes
that are no characters, so it is refused. -/
def negate? (flags : Flags) (negated : Bool) (s : CharSet) : Option CharSet :=
  if !negated then some s
  else if flags.unicode then some s.complement
  else none

def literalSet? (flags : Flags) (c : Char) (byteForm : Bool) : Option CharSet :=
  if !flags.unicode && byteForm && 127 < c.toNat then none
  else if flags.caseInsensitive && flags.unicode then
    some (CharSet.ofRanges ((Unicode.CaseFolding.orbit c.toNat).map fun n => (n, n)))
  else some (foldCase flags (CharSet.single c.toNat))

def dotSet? (flags : Flags) : Option CharSet :=
  if !flags.unicode then none
  else if flags.dotAll then some CharSet.all
  else if flags.crlf then some (CharSet.ofRanges [(10, 10), (13, 13)]).complement
  else some (CharSet.single 10).complement

def asciiDigit : CharSet := ⟨[(48, 57)]⟩

def asciiSpace : CharSet := ⟨[(9, 13), (32, 32)]⟩

def asciiWord : CharSet := ⟨[(48, 57), (65, 90), (95, 95), (97, 122)]⟩

def shorthandSet? (flags : Flags) (c : Char) : Option CharSet :=
  let u := flags.unicode
  let base : CharSet :=
    match c.toLower with
    | 'd' => if u then Unicode.Property.digit else asciiDigit
    | 's' => if u then Unicode.Property.whiteSpace else asciiSpace
    | _ => if u then Unicode.Property.word else asciiWord
  negate? flags (c != c.toLower) base

def isMeta (c : Char) : Bool := "\\.+*?()|[]\x7b\x7d^$#&-~".toList.contains c

def isEscapable (c : Char) : Bool :=
  isMeta c || (c.toNat < 128 && !c.isAlphanum && c != '<' && c != '>')

def readBraced (flags : Flags) : Nat → List Char → Option (List Char × List Char)
  | 0, _ => none
  | _ + 1, [] => none
  | fuel + 1, c :: rest =>
    if c == '\x7d' then some ([], rest)
    else (readBraced flags fuel (skip flags rest)).map fun r => (c :: r.1, r.2)

def readExactly (flags : Flags) : Nat → List Char → Option (List Char × List Char)
  | 0, cs => some ([], cs)
  | _ + 1, [] => none
  | n + 1, c :: rest => (readExactly flags n (skip flags rest)).map fun r => (c :: r.1, r.2)

def charOf? (n : Nat) : Option Char :=
  if h : n.isValidChar then some (Char.ofNatAux n h) else none

/-- Reads a code point behind `x`, `u` or `U`: two, four or eight digits, or any number in
braces. -/
def readCodePoint? (flags : Flags) (kind : Char) (cs : List Char) : Option (Escape × List Char) :=
  match skip flags cs with
  | '\x7b' :: rest => do
    let (digits, rest) ← readBraced flags rest.length.succ (skip flags rest)
    return (.literal (← charOf? (← readHex? digits)) false, skip flags rest)
  | cs => do
    let width := if kind == 'x' then 2 else if kind == 'u' then 4 else 8
    let (digits, rest) ← readExactly flags width cs
    return (.literal (← charOf? (← readHex? digits)) (kind == 'x'), rest)

def splitAtSeparator (separator : List Char) : List Char → Option (List Char × List Char)
  | [] => none
  | c :: rest =>
    if separator.isPrefixOf (c :: rest) then some ([], (c :: rest).drop separator.length)
    else (splitAtSeparator separator rest).map fun r => (c :: r.1, r.2)

def namedSet? (name : List Char) : Option (CharSet × Bool) :=
  match splitAtSeparator ['!', '='] name with
  | some (property, value) => (Unicode.classWith? property value).map (·, true)
  | none =>
    match splitAtSeparator [':'] name <|> splitAtSeparator ['='] name with
    | some (property, value) => (Unicode.classWith? property value).map (·, false)
    | none => (Unicode.classNamed? name).map (·, false)

def readNamedSet? (flags : Flags) (negated : Bool) (cs : List Char) :
    Option (Escape × List Char) := do
  let (name, rest) ←
    match skip flags cs with
    | '\x7b' :: rest => readBraced flags rest.length.succ (skip flags rest)
    | c :: rest => if c == '\\' then none else some ([c], skip flags rest)
    | [] => none
  if !flags.unicode then none
  let (set, inverse) ← namedSet? name
  let set ← negate? flags (negated != inverse) (foldCase flags set)
  return (.set set, rest)

def isBoundaryLetter (c : Char) : Bool := c.isAlpha || c == '-'

def readBoundaryName (flags : Flags) : Nat → List Char → List Char × List Char
  | 0, cs => ([], cs)
  | fuel + 1, c :: rest =>
    if isBoundaryLetter c then
      let r := readBoundaryName flags fuel (skip flags rest)
      (c :: r.1, r.2)
    else ([], c :: rest)
  | _ + 1, [] => ([], [])

/-- What follows `b`: a kind of boundary in braces, or nothing. A brace that opens no name is left
to be read as a repetition. -/
def readBoundary? (flags : Flags) (cs : List Char) : Option (Escape × List Char) :=
  let ascii := !flags.unicode
  let plain := some (Escape.assertion (.wordBoundary ascii), cs)
  match cs with
  | '\x7b' :: rest =>
    match skip flags rest with
    | [] => none
    | c :: inner =>
      if !isBoundaryLetter c then plain
      else
        match readBoundaryName flags inner.length.succ (c :: inner) with
        | (name, '\x7d' :: after) =>
          match String.ofList name with
          | "start" => some (.assertion (.wordStart ascii), after)
          | "end" => some (.assertion (.wordEnd ascii), after)
          | "start-half" => some (.assertion (.wordStartHalf ascii), after)
          | "end-half" => some (.assertion (.wordEndHalf ascii), after)
          | _ => none
        | _ => none
  | _ => plain

/-- Reads what follows a backslash. Back references and octal numbers are refused. -/
def readEscape? (flags : Flags) : List Char → Option (Escape × List Char)
  | [] => none
  | c :: rest =>
    let ascii := !flags.unicode
    if c == 'x' || c == 'u' || c == 'U' then readCodePoint? flags c rest
    else if c == 'p' || c == 'P' then readNamedSet? flags (c == 'P') rest
    else if "dswDSW".toList.contains c then (shorthandSet? flags c).map fun s => (.set s, rest)
    else if isEscapable c then some (.literal c false, rest)
    else
      match c with
      | 'a' => some (.literal '\x07' false, rest)
      | 'f' => some (.literal '\x0c' false, rest)
      | 't' => some (.literal '\t' false, rest)
      | 'n' => some (.literal '\n' false, rest)
      | 'r' => some (.literal '\r' false, rest)
      | 'v' => some (.literal '\x0b' false, rest)
      | 'A' => some (.assertion .textStart, rest)
      | 'z' => some (.assertion .textEnd, rest)
      | 'B' => some (.assertion (.notWordBoundary ascii), rest)
      | '<' => some (.assertion (.wordStart ascii), rest)
      | '>' => some (.assertion (.wordEnd ascii), rest)
      | 'b' => readBoundary? flags rest
      | _ => none

end Criteria.Pattern
