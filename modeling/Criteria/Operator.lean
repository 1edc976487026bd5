import Criteria.Failure

/-!
# Operators

An operator answers for one clause of its body: a key, an operand and the object under test. A
predicate answers by itself. A combinator may ask for evaluations first, of its operand or of any
other value, under any operator and against any object. What a combinator does is a `Plan`, its
questions and its answer as data.
-/

namespace Criteria

inductive Fold where
  | all
  | any
deriving DecidableEq, Repr

def Fold.combine (outcomes : List Bool) : Fold → Bool
  | all => outcomes.all id
  | any => outcomes.isEmpty || outcomes.any id

def Fold.text : Fold → String
  | all => "All"
  | any => "Any"

abbrev Outcome := Except Failure Bool

structure Verdict where
  outcome : Outcome
  rejectedPattern : Bool := false

/-- A dialogue of a combinator with the evaluator. -/
inductive Plan where
  | answer (outcome : Outcome)
  /-- Evaluates a value as the body of an operator, and goes on with the outcome. The value is the
  operand if no other one is given. -/
  | ask (operator : String) (body : Option Value) (object : Document) (next : Outcome → Plan)

abbrev Predicate := String → Value → Document → Verdict

abbrev Combinator := String → Value → Document → Plan

inductive Operator where
  | predicate (test : Predicate)
  | combinator (fold : Fold) (plan : Combinator)

namespace Operator

def fold : Operator → Fold
  | predicate _ => .all
  | combinator fold _ => fold

def isCombinator : Operator → Bool
  | predicate _ => false
  | combinator _ _ => true

def text : Operator → String
  | predicate _ => "Predicate(..)"
  | combinator fold _ => "Combinator(" ++ fold.text ++ ")"

end Operator

end Criteria
