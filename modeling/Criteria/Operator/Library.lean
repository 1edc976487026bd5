import Criteria.Operator.Builtin

/-!
# Further operators

Operators that hosts register beside the built-in ones. Predicates first, then combinators, which
come in both folds.
-/

namespace Criteria.Operator

def constant (b : Bool) : Operator := .predicate fun _ _ _ => ⟨.ok b, false⟩

def presence : Operator := .predicate fun field operand object =>
  match operand with
  | .boolean expected => ⟨.ok ((object.get? field).isSome == expected), false⟩
  | _ => ⟨.error (.ofValue "$exists" .definition "not a boolean" operand), false⟩

def refusal (reason : String) : Operator := .predicate fun field _ object =>
  ⟨.error (.ofValue "$fail" .object reason (object.get? field)), false⟩

def unknown : Operator := .predicate fun field _ _ => ⟨.error (.unknownOperator field), false⟩

def atLeast : Operator := .predicate fun field operand object =>
  let order := (object.get? field).bind fun actual => actual.compare? operand
  ⟨.ok (order == some .gt || order == some .eq), false⟩

def oneOf : Operator := .predicate fun field operand object =>
  match operand with
  | .array items => ⟨.ok (items.any fun item => fieldEqual (object.get? field) item), false⟩
  | _ => ⟨.error (.ofValue "$in" .definition "not an array" operand), false⟩

def same : Operator := .predicate fun field operand object =>
  ⟨.ok ((object.get? field).any fun actual => actual.deepEqual operand), false⟩

def through (fold : Fold) : Operator := .combinator fold Builtin.planThrough

/-- As `through`, negated. -/
def negation (fold : Fold) : Operator := .combinator fold Builtin.planNot

def decided (fold : Fold) (b : Bool) : Operator := .combinator fold fun _ _ _ => .answer (.ok b)

/-- As `through`, with a value in place of a failure. -/
def recovery (fold : Fold) (b : Bool) : Operator := .combinator fold fun key _ object =>
  .ask key none object fun outcome => .answer (.ok (outcome.toOption.getD b))

def redirection (fold : Fold) (target : String) : Operator := .combinator fold fun _ _ object =>
  .ask target none object .answer

def nested (fold : Fold) : Operator := .combinator fold fun field _ object =>
  match object.get? field with
  | some (.document inner) => .ask Builtin.and.name none inner .answer
  | other => .answer (.error (.ofValue "$sub" .object "not a document" other))

/-- Tests documents in turn, all of them unless one fails; one that matches is enough. -/
def planAnyOf : List Document → Bool → Plan
  | [], found => .answer (.ok found)
  | d :: rest, found => .ask Builtin.and.name none d fun
    | .ok b => planAnyOf rest (found || b)
    | .error failure => .answer (.error failure)

def someItem (fold : Fold) : Operator := .combinator fold fun field _ object =>
  match object.get? field with
  | some (.array items) =>
    planAnyOf (items.filterMap fun | .document d => some d | _ => none) false
  | other => .answer (.error (.ofValue "$elem" .object "not an array" other))

end Criteria.Operator
