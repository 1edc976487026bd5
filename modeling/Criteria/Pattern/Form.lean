import Criteria.Pattern.Syntax

/-!
# Plain forms of expressions

The plain form of an expression leaves out what has no effect on its matches: groups that capture
nothing, flags, empty parts and repetitions that happen once. Characters side by side become a text,
a choice of characters or classes becomes one class, and a choice between sequences with a common
start has that start once. Sequences and choices are put together by `sequence` and `choice` alone,
so none stands directly inside one of its own kind.
-/

namespace Criteria.Pattern

inductive Form where
  | empty
  | text (chars : List Char)
  | set (chars : CharSet)
  | assertion (condition : Assertion)
  | repeated (body : Form) (min : Nat) (max : Option Nat) (lazy : Bool)
  | group (body : Form)
  | concat (parts : List Form)
  | alternate (branches : List Form)
deriving Repr, Inhabited

namespace Form

mutual

/-- Whether two forms say the same. No group is the same as another, since what they capture goes by
the number of the group. -/
def same : Form → Form → Bool
  | .empty, .empty => true
  | .text s, .text t => s == t
  | .set s, .set t => s == t
  | .assertion a, .assertion b => a == b
  | .repeated e min max lazy, .repeated f min' max' lazy' =>
    min == min' && max == max' && lazy == lazy' && e.same f
  | .concat parts, .concat parts' => sameAll parts parts'
  | .alternate branches, .alternate branches' => sameAll branches branches'
  | _, _ => false

def sameAll : List Form → List Form → Bool
  | [], [] => true
  | e :: rest, f :: rest' => e.same f && sameAll rest rest'
  | _, _ => false

end

mutual

def alwaysEmpty : Form → Bool
  | .empty | .assertion _ => true
  | .text _ | .set _ => false
  | .repeated body _ _ _ | .group body => body.alwaysEmpty
  | .concat parts => alwaysEmptyAll parts
  | .alternate branches => alwaysEmptyAll branches

def alwaysEmptyAll : List Form → Bool
  | [] => true
  | e :: rest => e.alwaysEmpty && alwaysEmptyAll rest

end

mutual

/-- The least count of characters that a match takes; a form with an empty class in it has none. -/
def minLength? : Form → Option Nat
  | .empty | .assertion _ => some 0
  | .text chars => some chars.length
  | .set s => if s.isEmpty then none else some 1
  | .repeated body min _ _ => body.minLength?.map (min * ·)
  | .group body => body.minLength?
  | .concat parts => minLengthOfAll? parts
  | .alternate [] => none
  | .alternate (first :: rest) => do minLengthOfAny? (← first.minLength?) rest

def minLengthOfAll? : List Form → Option Nat
  | [] => some 0
  | e :: rest => do return (← e.minLength?) + (← minLengthOfAll? rest)

def minLengthOfAny? (least : Nat) : List Form → Option Nat
  | [] => some least
  | e :: rest => do minLengthOfAny? (min least (← e.minLength?)) rest

end

def consumes (e : Form) : Bool := e.minLength?.any (0 < ·)

mutual

def startsWith (a : Assertion) : Form → Bool
  | .empty | .text _ | .set _ => false
  | .assertion b => a == b
  | .repeated body min _ _ => 0 < min && body.startsWith a
  | .group body => body.startsWith a
  | .concat parts => startsWithIn a parts
  | .alternate branches => startsWithEach a branches

def startsWithIn (a : Assertion) : List Form → Bool
  | [] => false
  | e :: rest => e.startsWith a || (e.alwaysEmpty && startsWithIn a rest)

def startsWithEach (a : Assertion) : List Form → Bool
  | [] => true
  | e :: rest => e.startsWith a && startsWithEach a rest

end

mutual

def endsWith (a : Assertion) : Form → Bool
  | .empty | .text _ | .set _ => false
  | .assertion b => a == b
  | .repeated body min _ _ => 0 < min && body.endsWith a
  | .group body => body.endsWith a
  | .concat parts => endsWithIn a parts
  | .alternate branches => endsWithEach a branches

def endsWithIn (a : Assertion) : List Form → Bool
  | [] => false
  | e :: rest => endsWithIn a rest || (alwaysEmptyAll rest && e.endsWith a)

def endsWithEach (a : Assertion) : List Form → Bool
  | [] => true
  | e :: rest => e.endsWith a && endsWithEach a rest

end

def parts : Form → List Form
  | .empty => []
  | .concat parts => parts
  | e => [e]

def branches : Form → List Form
  | .alternate branches => branches
  | e => [e]

/-- Puts a part before others, and joins texts that meet. -/
def cons : Form → List Form → List Form
  | .text s, .text t :: rest => .text (s ++ t) :: rest
  | e, rest => e :: rest

def sequence (forms : List Form) : Form :=
  match (forms.flatMap parts).foldr cons [] with
  | [] => .empty
  | [e] => e
  | parts => .concat parts

def trim (range : Nat × Nat) : Nat × Nat :=
  (if 0xd800 ≤ range.1 ∧ range.1 ≤ 0xdfff then 0xe000 else range.1,
    if 0xd800 ≤ range.2 ∧ range.2 ≤ 0xdfff then 0xd7ff else range.2)

def ofSet (s : CharSet) : Form :=
  match (s.ranges.map trim).filter fun r => r.1 ≤ r.2 with
  | [(low, high)] => if low = high then .text [Char.ofNat low] else .set ⟨[(low, high)]⟩
  | ranges => .set ⟨ranges⟩

def setOfChars? : List Form → Option CharSet
  | [] => some CharSet.empty
  | .text [c] :: rest => (setOfChars? rest).map (CharSet.single c.toNat).union
  | _ => none

def unionOfSets? : List Form → Option CharSet
  | [] => some CharSet.empty
  | .set s :: rest => (unionOfSets? rest).map s.union
  | _ => none

def merge : List Form → Form
  | [] => .set CharSet.empty
  | [e] => e
  | branches =>
    match (setOfChars? branches).orElse fun _ => unionOfSets? branches with
    | some s => ofSet s
    | none => .alternate branches

def commonStart : List Form → List Form → List Form
  | e :: rest, f :: rest' => if e.same f then e :: commonStart rest rest' else []
  | _, _ => []

def sharedStart : List Form → List Form
  | .concat parts :: rest =>
    rest.foldl (fun shared branch =>
      match branch with
      | .concat parts => commonStart shared parts
      | _ => []) parts
  | _ => []

/-- One of the forms. What all branches start with is taken out once. -/
def choice (forms : List Form) : Form :=
  match merge (forms.flatMap branches) with
  | .alternate branches =>
    match sharedStart branches with
    | [] => .alternate branches
    | shared =>
      let rest := branches.map fun e => sequence (e.parts.drop shared.length)
      sequence (shared ++ [merge (rest.flatMap Form.branches)])
  | e => e

/-- A form in a row. One that is always empty is had at most once. -/
def repetition (body : Form) (min : Nat) (max : Option Nat) (lazy : Bool) : Form :=
  let (min, max) :=
    if body.alwaysEmpty then (Nat.min min 1, some (Nat.min (max.getD 1) 1)) else (min, max)
  match min, max with
  | 0, some 0 => .empty
  | 1, some 1 => body
  | min, max => .repeated body min max lazy

end Form

mutual

def Expr.form : Expr → Form
  | .empty | .directive => .empty
  | .chars s _ => .ofSet s
  | .assertion a => .assertion a
  | .group true body => .group body.form
  | .group false body => body.form
  | .repeated body min max lazy => body.form.repetition min max lazy
  | .concat parts => .sequence (formsOf parts)
  | .alternate branches => .choice (formsOf branches)

def formsOf : List Expr → List Form
  | [] => []
  | e :: rest => e.form :: formsOf rest

end

end Criteria.Pattern
