import Criteria.Pattern.Bracket
import Criteria.Unicode.Property

/-!
# Reading patterns

Groups under way wait on a stack, so nesting costs no recursion. Flags change from a directive on to
the end of the group that holds it, across the branches of an alternation.
-/

namespace Criteria.Pattern

/-- What has been read of one group: branches that are finished, and parts of the one that is not.
Both are kept last first. -/
structure Level where
  branches : List Expr := []
  parts : List Expr := []

structure Frame where
  captures : Bool
  flags : Flags
  outer : Level

structure ReadState where
  flags : Flags
  level : Level := {}
  stack : List Frame := []
  names : List String := []

namespace Level

def push (level : Level) (e : Expr) : Level := { level with parts := e :: level.parts }

def branch (level : Level) : Level :=
  ⟨Expr.ofParts level.parts.reverse :: level.branches, []⟩

def finish (level : Level) : Expr :=
  let last := Expr.ofParts level.parts.reverse
  match level.branches with
  | [] => last
  | branches => .alternate (last :: branches).reverse

def repeatLast? (level : Level) (min : Nat) (max : Option Nat) (lazy : Bool) : Option Level :=
  match level.parts with
  | [] => none
  | e :: rest =>
    if e.isRepeatable then some { level with parts := .repeated e min max lazy :: rest } else none

end Level

def ReadState.push (s : ReadState) (e : Expr) : ReadState := { s with level := s.level.push e }

def Flags.set? (flags : Flags) (letter : Char) (value : Bool) : Option Flags :=
  match letter with
  | 'i' => some { flags with caseInsensitive := value }
  | 'm' => some { flags with multiLine := value }
  | 's' => some { flags with dotAll := value }
  | 'x' => some { flags with verbose := value }
  | 'u' => some { flags with unicode := value }
  | 'R' => some { flags with crlf := value }
  | 'U' => some { flags with lazy := value }
  | _ => none

def Flags.setAll? : Flags → Bool → List Char → Option Flags
  | flags, _, [] => some flags
  | flags, _, '-' :: rest => setAll? flags false rest
  | flags, value, letter :: rest => do setAll? (← flags.set? letter value) value rest

/-- Applies a group of flag letters. No letter and no hyphen may occur twice, nor a hyphen at the
end. -/
def Flags.apply? (flags : Flags) (letters : List Char) : Option Flags :=
  if letters.eraseDups.length = letters.length ∧ letters.getLast? ≠ some '-' then
    flags.setAll? true letters
  else none

def isNameChar (first : Bool) (c : Char) : Bool :=
  if first then c == '_' || Unicode.Recent.alphabetic.containsChar c
  else c == '_' || c == '.' || c == '[' || c == ']' || Unicode.Recent.alphanumeric.containsChar c

def readName? (cs : List Char) : Option (String × List Char) :=
  let name := cs.takeWhile (· != '>')
  match name, cs.drop name.length with
  | first :: others, _ :: rest =>
    if isNameChar true first && others.all (isNameChar false) then some (String.ofList name, rest)
    else none
  | _, _ => none

def openGroup (s : ReadState) (captures : Bool) (inside : Flags) : ReadState :=
  { s with flags := inside, level := {}, stack := ⟨captures, s.flags, s.level⟩ :: s.stack }

def openNamed? (s : ReadState) (cs : List Char) : Option (ReadState × List Char) := do
  let (name, rest) ← readName? cs
  if s.names.contains name then none
  else some ({ openGroup s true s.flags with names := name :: s.names }, rest)

def readDirective? (s : ReadState) (cs : List Char) : Option (ReadState × List Char) := do
  let letters := cs.takeWhile fun c => c != ':' && c != ')'
  let flags ← s.flags.apply? letters
  match cs.drop letters.length with
  | ':' :: rest => some (openGroup s false flags, rest)
  | ')' :: rest =>
    if letters.isEmpty then none else some ({ s.push .directive with flags }, rest)
  | _ => none

def readGroup? (s : ReadState) (cs : List Char) : Option (ReadState × List Char) :=
  match skip s.flags cs with
  | '?' :: '=' :: _ | '?' :: '!' :: _ | '?' :: '<' :: '=' :: _ | '?' :: '<' :: '!' :: _ => none
  | '?' :: 'P' :: '<' :: rest => openNamed? s rest
  | '?' :: '<' :: rest => openNamed? s rest
  | '?' :: rest => readDirective? s rest
  | rest => some (openGroup s true s.flags, rest)

def closeGroup? (s : ReadState) : Option ReadState :=
  match s.stack with
  | [] => none
  | frame :: stack =>
    some { s with
      flags := frame.flags
      level := frame.outer.push (.group frame.captures s.level.finish)
      stack }

def readCount? (flags : Flags) (cs : List Char) : Option Nat × List Char :=
  let start := cs.dropWhile Unicode.Property.whiteSpace.containsChar
  let (digits, rest) := digitsFrom start.length start
  let rest := rest.dropWhile Unicode.Property.whiteSpace.containsChar
  ((readDigits? digits).filter (· < Nat.pow 2 32), skip flags rest)
where
  digitsFrom : Nat → List Char → List Char × List Char
    | 0, cs => ([], cs)
    | fuel + 1, c :: rest =>
      if (decimalDigit? c).isSome then
        let r := digitsFrom fuel (skip flags rest)
        (c :: r.1, r.2)
      else ([], c :: rest)
    | _ + 1, [] => ([], [])

/-- A repetition marked by one character, and the mark behind it that makes an eager repetition lazy
and a lazy one eager. -/
def readRepetition? (s : ReadState) (min : Nat) (max : Option Nat) (rest : List Char) :
    Option (ReadState × List Char) := do
  let marked := rest.head? == some '?'
  let level ← s.level.repeatLast? min max (marked != s.flags.lazy)
  return ({ s with level }, if marked then rest.drop 1 else rest)

def readUpperCount? (flags : Flags) (min : Nat) : List Char → Option (Option Nat × List Char)
  | '\x7d' :: rest => some (some min, rest)
  | ',' :: after =>
    match skip flags after with
    | '\x7d' :: rest => some (none, rest)
    | after =>
      match readCount? flags after with
      | (some max, '\x7d' :: rest) => if max < min then none else some (some max, rest)
      | _ => none
  | _ => none

def readCounted? (s : ReadState) (cs : List Char) : Option (ReadState × List Char) := do
  let (low, rest) := readCount? s.flags (skip s.flags cs)
  let min ← low
  let (max, rest) ← readUpperCount? s.flags min rest
  readRepetition? s min max (skip s.flags rest)

def Escape.expr? (flags : Flags) : Escape → Option Expr
  | .literal c byteForm => (literalSet? flags c byteForm).map (.chars · 0)
  | .set s => some (.chars s 0)
  | .assertion a => some (.assertion a)

def readConstruct? (s : ReadState) (c : Char) (rest : List Char) : Option (ReadState × List Char) :=
  match c with
  | '(' => readGroup? s rest
  | ')' => (closeGroup? s).map (·, rest)
  | '|' => some ({ s with level := s.level.branch }, rest)
  | '[' => (readClass? s.flags rest).map fun r => (s.push r.1, r.2)
  | '?' => readRepetition? s 0 (some 1) rest
  | '*' => readRepetition? s 0 none rest
  | '+' => readRepetition? s 1 none rest
  | '\x7b' => readCounted? s rest
  | '\\' => do
    let (escape, rest) ← readEscape? s.flags rest
    return (s.push (← escape.expr? s.flags), rest)
  | '.' => (dotSet? s.flags).map fun set => (s.push (.chars set 0), rest)
  | '^' =>
    let a := if s.flags.multiLine then Assertion.lineStart s.flags.crlf else .textStart
    some (s.push (.assertion a), rest)
  | '$' =>
    let a := if s.flags.multiLine then Assertion.lineEnd s.flags.crlf else .textEnd
    some (s.push (.assertion a), rest)
  | _ => (literalSet? s.flags c false).map fun set => (s.push (.chars set 0), rest)

/-- Reads constructs to the end of the text. Each takes a character at least. -/
def readAll? : Nat → ReadState → List Char → Option Expr
  | 0, _, _ => none
  | fuel + 1, s, cs =>
    match skip s.flags cs with
    | [] => if s.stack.isEmpty then some s.level.finish else none
    | c :: rest =>
      match readConstruct? s c rest with
      | some (s, rest) => readAll? fuel s rest
      | none => none

def read? (flags : Flags) (pattern : String) : Option Expr :=
  let cs := pattern.toList
  (readAll? (cs.length + 1) { flags } cs).filter fun e => e.depth ≤ maxDepth

end Criteria.Pattern
