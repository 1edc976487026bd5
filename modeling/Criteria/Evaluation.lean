import Criteria.Registry

/-!
# Evaluation of queries

A query is the body of `$and`. Evaluation looks an operator up by name, hands it every clause of its
body in order, and folds the outcomes. Every clause is evaluated even when the fold is decided, so
that a clause which fails never hides behind an earlier one. What happens on the way is a list of
events.

Operands lie inside the query, so evaluation of operands ends. A combinator can have other values
evaluated as well, and by them evaluation may go on for ever; how deep such evaluations nest is
limited. One that would go deeper is given up and has no result.
-/

namespace Criteria

inductive Event where
  | completed (operator key : String) (outcome : Bool)
  | rejectedPattern
deriving DecidableEq, Repr

def clauseLine (operator key : String) (outcome : Bool) : String :=
  operator ++ " " ++ key ++ " => " ++ (if outcome then "true" else "false")

def Event.line? : Event → Option String
  | completed operator key outcome => some (clauseLine operator key outcome)
  | rejectedPattern => none

def Event.isCompleted : Event → Bool
  | completed _ _ _ => true
  | rejectedPattern => false

/-- A result with the events that came before it. A run that was given up has no result. -/
structure Run (α : Type) where
  result : Option (Except Failure α)
  events : List Event := []

namespace Run

variable {α β : Type}

def ofFailure (failure : Failure) : Run α := ⟨some (.error failure), []⟩

def ofValue (value : α) : Run α := ⟨some (.ok value), []⟩

def givenUp : Run α := ⟨none, []⟩

def followedBy (r : Run α) (next : Except Failure α → Run β) : Run β :=
  match r.result with
  | some result => ⟨(next result).result, r.events ++ (next result).events⟩
  | none => ⟨none, r.events⟩

def andThen (r : Run α) (next : α → Run β) : Run β :=
  r.followedBy fun
    | .ok value => next value
    | .error failure => .ofFailure failure

def map (f : α → β) (r : Run α) : Run β := ⟨r.result.map (Except.map f), r.events⟩

def lines (r : Run α) : List String := r.events.filterMap Event.line?

def clauseCount (r : Run α) : Nat := r.events.countP Event.isCompleted

end Run

def Verdict.run (v : Verdict) : Run Bool :=
  ⟨some v.outcome, if v.rejectedPattern then [.rejectedPattern] else []⟩

abbrev Evaluator := String → Value → Document → Run Bool

/-- Evaluates the operand of a combinator, or another value if one is given. -/
abbrev Inquiry := String → Option Value → Document → Run Bool

def operandOr {α : Type} (own : String → Document → α) (beyond : String → Value → Document → α)
    (operator : String) (other : Option Value) (object : Document) : α :=
  match other with
  | none => own operator object
  | some value => beyond operator value object

/-- Carries a plan out. A failed evaluation is an answer to the plan and need not end it. -/
def Plan.run (inquire : Inquiry) : Plan → Run Bool
  | answer outcome => ⟨some outcome, []⟩
  | ask operator body object next =>
    (inquire operator body object).followedBy fun outcome => (next outcome).run inquire

def Operator.runClause (op : Operator) (key : String) (operand : Value) (object : Document)
    (inquire : Inquiry) : Run Bool :=
  match op with
  | .predicate test => (test key operand object).run
  | .combinator _ plan => (plan key operand object).run inquire

mutual

/-- Evaluates a value as the body of an operator. The operator is looked up before the body is
looked at. `beyond` evaluates what is no operand. -/
def evaluate (r : Registry) (beyond : Evaluator) (operator : String) (body : Value)
    (object : Document) : Run Bool :=
  match r.get? operator with
  | none => .ofFailure (.unknownOperator operator)
  | some op =>
    match body with
    | .document clauses =>
      (evaluateClauses r beyond operator op clauses object).map fun outcomes =>
        op.fold.combine outcomes
    | body => .ofFailure (.ofValue operator .definition "not a document" body)
termination_by structural body

def evaluateClauses (r : Registry) (beyond : Evaluator) (operator : String) (op : Operator)
    (clauses : List (String × Value)) (object : Document) : Run (List Bool) :=
  match clauses with
  | [] => .ofValue []
  | (key, operand) :: rest =>
    let inquire := operandOr (fun name inner => evaluate r beyond name operand inner) beyond
    (op.runClause key operand object inquire).andThen fun outcome =>
      let following := (evaluateClauses r beyond operator op rest object).map (outcome :: ·)
      ⟨following.result, .completed operator key outcome :: following.events⟩
termination_by structural clauses

end

section Equations

variable {r : Registry} {operator : String} {op : Operator}

theorem evaluate_unregistered (h : r.get? operator = none) (beyond : Evaluator) (body : Value)
    (object : Document) :
    evaluate r beyond operator body object = .ofFailure (.unknownOperator operator) := by
  unfold evaluate
  rw [h]

theorem evaluate_document (h : r.get? operator = some op) (beyond : Evaluator)
    (clauses object : Document) : evaluate r beyond operator (.document clauses) object =
      (evaluateClauses r beyond operator op clauses object).map fun outcomes =>
        op.fold.combine outcomes := by
  unfold evaluate
  rw [h]

@[simp] theorem evaluateClauses_nil (r : Registry) (beyond : Evaluator) (operator : String)
    (op : Operator) (object : Document) :
    evaluateClauses r beyond operator op [] object = .ofValue [] := by
  rw [evaluateClauses]

end Equations

def Registry.inquiry (r : Registry) (beyond : Evaluator) (operand : Value) : Inquiry :=
  operandOr (fun name inner => evaluate r beyond name operand inner) beyond

@[simp] theorem Registry.inquiry_none (r : Registry) (beyond : Evaluator) (operand : Value)
    (operator : String) (object : Document) :
    r.inquiry beyond operand operator none object = evaluate r beyond operator operand object :=
  rfl

theorem evaluateClauses_cons (r : Registry) (beyond : Evaluator) (operator : String)
    (op : Operator) (key : String) (operand : Value) (rest : List (String × Value))
    (object : Document) : evaluateClauses r beyond operator op ((key, operand) :: rest) object =
      (op.runClause key operand object (r.inquiry beyond operand)).andThen fun outcome =>
        let following := (evaluateClauses r beyond operator op rest object).map (outcome :: ·)
        ⟨following.result, .completed operator key outcome :: following.events⟩ := by
  rw [evaluateClauses]
  rfl

namespace Registry

/-- Evaluation of values that are no operands, up to a number of them inside each other. -/
def beyond (r : Registry) : Nat → Evaluator
  | 0 => fun _ _ _ => .givenUp
  | limit + 1 => evaluate r (r.beyond limit)

def runBody (r : Registry) (limit : Nat) : Evaluator := evaluate r (r.beyond limit)

end Registry

def rootOperator : String := Builtin.and.name

def Registry.run (r : Registry) (limit : Nat) (query object : Document) : Run Bool :=
  r.runBody limit rootOperator (.document query) object

end Criteria
