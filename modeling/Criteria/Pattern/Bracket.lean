import Criteria.Pattern.Escape

/-!
# Classes in brackets

Brackets hold characters, ranges, classes and further brackets, and the set operations `&&`, `--`
and `~~`, which bind to the left. The reader keeps the brackets and operations under way on a stack.
-/

namespace Criteria.Pattern

inductive SetOperation where
  | intersection
  | difference
  | symmetricDifference
deriving DecidableEq, Repr

def SetOperation.apply : SetOperation → CharSet → CharSet → CharSet
  | .intersection => CharSet.inter
  | .difference => CharSet.diff
  | .symmetricDifference => CharSet.symmDiff

/-- The items read so far between two operators: their union, their number and their deepest
nesting. -/
structure Items where
  set : CharSet := CharSet.empty
  count : Nat := 0
  nesting : Nat := 0

def Items.add (items : Items) (set : CharSet) (nesting : Nat) : Items :=
  ⟨items.set.union set, items.count + 1, max items.nesting nesting⟩

def Items.depth (items : Items) : Nat :=
  if items.count ≤ 1 then items.nesting else items.nesting + 1

inductive Pending where
  | bracket (negated : Bool) (outer : Items)
  | operation (op : SetOperation) (left : CharSet) (nesting : Nat)

def posixSet? (name : String) : Option CharSet :=
  match name with
  | "alnum" => some ⟨[(48, 57), (65, 90), (97, 122)]⟩
  | "alpha" => some ⟨[(65, 90), (97, 122)]⟩
  | "ascii" => some CharSet.ascii
  | "blank" => some ⟨[(9, 9), (32, 32)]⟩
  | "cntrl" => some ⟨[(0, 31), (127, 127)]⟩
  | "digit" => some asciiDigit
  | "graph" => some ⟨[(33, 126)]⟩
  | "lower" => some ⟨[(97, 122)]⟩
  | "print" => some ⟨[(32, 126)]⟩
  | "punct" => some ⟨[(33, 47), (58, 64), (91, 96), (123, 126)]⟩
  | "space" => some asciiSpace
  | "upper" => some ⟨[(65, 90)]⟩
  | "word" => some asciiWord
  | "xdigit" => some ⟨[(48, 57), (65, 70), (97, 102)]⟩
  | _ => none

/-- Reads `:name:]` or `:^name:]`. Where that fails the bracket opens an ordinary class. -/
def readPosix? : List Char → Option (CharSet × Bool × List Char)
  | ':' :: rest =>
    let negated := rest.head? == some '^'
    let rest := if negated then rest.drop 1 else rest
    let name := rest.takeWhile (· != ':')
    match rest.drop name.length with
    | ':' :: ']' :: after => (posixSet? (String.ofList name)).map (·, negated, after)
    | _ => none
  | _ => none

/-- The first character after one space-skipping look ahead. A comment sign is passed over once, and
the text behind it counts. -/
def peekSpace : Bool → List Char → Option Char
  | _, [] => none
  | inComment, c :: rest =>
    if Unicode.Property.whiteSpace.containsChar c then peekSpace inComment rest
    else if !inComment && c == '#' then peekSpace true rest
    else some c

def peekPast (flags : Flags) (cs : List Char) : Option Char :=
  if flags.verbose then peekSpace false cs <|> cs.head? else cs.head?

def readItem? (flags : Flags) : List Char → Option (Escape × List Char)
  | '\\' :: rest => readEscape? flags rest
  | c :: rest => some (.literal c false, rest)
  | [] => none

def bracketLiteral? (flags : Flags) : Escape → Option Nat
  | .literal c _ => if !flags.unicode && 127 < c.toNat then none else some c.toNat
  | _ => none

def itemSet? (flags : Flags) (item : Escape) : Option CharSet :=
  match item with
  | .set s => some s
  | _ => (bracketLiteral? flags item).map CharSet.single

/-- Reads an item or a range. A hyphen before the closing bracket or before another hyphen makes no
range. -/
def readRange? (flags : Flags) (cs : List Char) : Option (CharSet × List Char) := do
  let (first, rest) ← readItem? flags cs
  match skip flags rest with
  | [] => none
  | '-' :: after =>
    let next := peekPast flags after
    if next == some ']' || next == some '-' then
      return (← itemSet? flags first, '-' :: after)
    else
      let (last, rest) ← readItem? flags (skip flags after)
      let low ← bracketLiteral? flags first
      let high ← bracketLiteral? flags last
      if low ≤ high then return (CharSet.ofRange low high, rest) else none
  | rest => return (← itemSet? flags first, rest)

def readLeadingHyphens (flags : Flags) : Nat → Items → List Char → Items × List Char
  | 0, items, cs => (items, cs)
  | fuel + 1, items, '-' :: rest =>
    readLeadingHyphens flags fuel (items.add (CharSet.single 45) 0) (skip flags rest)
  | _ + 1, items, cs => (items, cs)

def readOpening (flags : Flags) (cs : List Char) : Bool × Items × List Char :=
  let cs := skip flags cs
  let negated := cs.head? == some '^'
  let cs := if negated then skip flags (cs.drop 1) else cs
  let (items, cs) := readLeadingHyphens flags cs.length {} cs
  match cs with
  | ']' :: rest =>
    if items.count = 0 then (negated, items.add (CharSet.single 93) 0, skip flags rest)
    else (negated, items, cs)
  | _ => (negated, items, cs)

def finishOperation (flags : Flags) (items : Items) :
    List Pending → CharSet × Nat × List Pending
  | .operation op left nesting :: stack =>
    (op.apply (foldCase flags left) (foldCase flags items.set), max nesting items.depth + 1, stack)
  | stack => (items.set, items.depth, stack)

def operator? : List Char → Option (SetOperation × List Char)
  | '&' :: '&' :: rest => some (.intersection, rest)
  | '-' :: '-' :: rest => some (.difference, rest)
  | '~' :: '~' :: rest => some (.symmetricDifference, rest)
  | _ => none

/-- Reads on inside brackets until the outermost one closes. Each round reads a character at
least. -/
def readBrackets (flags : Flags) :
    Nat → Items → List Pending → List Char → Option (Expr × List Char)
  | 0, _, _, _ => none
  | fuel + 1, items, stack, cs =>
    match skip flags cs with
    | [] => none
    | '[' :: rest =>
      match readPosix? rest with
      | some (set, negated, after) =>
        match negate? flags negated (foldCase flags set) with
        | some set => readBrackets flags fuel (items.add set 0) stack after
        | none => none
      | none =>
        let (negated, inner, after) := readOpening flags rest
        readBrackets flags fuel inner (.bracket negated items :: stack) after
    | ']' :: rest =>
      match finishOperation flags items stack with
      | (set, nesting, .bracket negated outer :: stack) =>
        match negate? flags negated (foldCase flags set), stack with
        | some set, [] => some (.chars set (nesting + 1), rest)
        | some set, stack => readBrackets flags fuel (outer.add set (nesting + 1)) stack rest
        | none, _ => none
      | _ => none
    | cs =>
      match operator? cs with
      | some (op, rest) =>
        let (set, nesting, stack) := finishOperation flags items stack
        readBrackets flags fuel {} (.operation op set nesting :: stack) rest
      | none =>
        match readRange? flags cs with
        | some (set, rest) => readBrackets flags fuel (items.add set 0) stack rest
        | none => none

def readClass? (flags : Flags) (cs : List Char) : Option (Expr × List Char) :=
  let (negated, items, rest) := readOpening flags cs
  readBrackets flags (cs.length + 1) items [.bracket negated {}] rest

end Criteria.Pattern
