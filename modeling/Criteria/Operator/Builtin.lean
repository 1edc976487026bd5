import Criteria.Operator
import Criteria.Pattern
import Criteria.Value.Comparison

/-!
# Built-in operators

Three combinators take each key of their body as the name of the next operator, and five predicates
take it as a field of the object. A predicate that can fail looks at the field before its operand.
-/

namespace Criteria

inductive Builtin where
  | and
  | or
  | not
  | equal
  | contain
  | pattern
  | gt
  | lt
deriving DecidableEq, Repr

def isInside (needle : List Char) : List Char → Bool
  | [] => needle.isEmpty
  | c :: rest => needle.isPrefixOf (c :: rest) || isInside needle rest

namespace Builtin

def all : List Builtin := [and, or, not, equal, contain, pattern, gt, lt]

/-- The name in queries, and in failures under whatever name the operator is registered. -/
def name : Builtin → String
  | and => "$and"
  | or => "$or"
  | not => "$not"
  | equal => "$equal"
  | contain => "$contain"
  | pattern => "$match"
  | gt => "$gt"
  | lt => "$lt"

def mismatch (self : Builtin) (side : Side) (reason : String) (value : Option Value) : Outcome :=
  .error (.ofValue self.name side reason value)

def testEqual : Predicate := fun field expected object =>
  ⟨.ok (fieldEqual (object.get? field) expected), false⟩

def testContain : Predicate := fun field item object =>
  match object.get? field with
  | some (.string haystack) =>
    match item with
    | .string needle => ⟨.ok (isInside needle.toList haystack.toList), false⟩
    | _ => ⟨.ok false, false⟩
  | some (.array items) => ⟨.ok (items.any fun x => x.deepEqual item), false⟩
  | other => ⟨contain.mismatch .object "not a string or array" other, false⟩

def testPattern : Predicate := fun field operand object =>
  match object.get? field with
  | some (.string text) =>
    match operand with
    | .regex source options =>
      match Pattern.compile? source options with
      | some p => ⟨.ok (p.isMatch text), false⟩
      | none => ⟨pattern.mismatch .definition "not a valid regex" operand, true⟩
    | _ => ⟨pattern.mismatch .definition "not a regex" operand, false⟩
  | other => ⟨pattern.mismatch .object "not a string" other, false⟩

/-- The number in the field stands in a given order to the operand. A NaN stands in none. -/
def testOrder (self : Builtin) (order : Ordering) : Predicate := fun field threshold object =>
  match (object.get? field).filter Value.isNumber with
  | none => ⟨self.mismatch .object "not a number" (object.get? field), false⟩
  | some actual =>
    if threshold.isNumber then ⟨.ok (actual.compare? threshold == some order), false⟩
    else ⟨self.mismatch .definition "not a number" threshold, false⟩

/-- The key is the operator of the operand. -/
def planThrough : Combinator := fun key _ object => .ask key none object .answer

def planNot : Combinator := fun key _ object =>
  .ask key none object fun outcome => .answer (outcome.map Bool.not)

def operator : Builtin → Operator
  | and => .combinator .all planThrough
  | or => .combinator .any planThrough
  | not => .combinator .all planNot
  | equal => .predicate testEqual
  | contain => .predicate testContain
  | pattern => .predicate testPattern
  | gt => .predicate (testOrder gt .gt)
  | lt => .predicate (testOrder lt .lt)

def ofName? (name : String) : Option Builtin := all.find? fun b => b.name == name

end Builtin

end Criteria
