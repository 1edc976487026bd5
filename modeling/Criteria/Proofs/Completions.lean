import Criteria.Proofs.DocumentLookup
import Criteria.Proofs.FieldClauses

/-!
# How many clauses are completed

A clause is completed when its operator has an outcome for it. Here completed clauses are counted by
the outcomes alone, in every body that an operator has evaluated on the way, whatever it makes of
the result. This is the number of the events of an evaluation.
-/

namespace Criteria

def Plan.total (inquire : Inquiry) (number : String → Option Value → Document → Nat) : Plan → Nat
  | answer _ => 0
  | ask operator body object next =>
    let rest := (inquire operator body object).result.elim 0 fun outcome =>
      (next outcome).total inquire number
    number operator body object + rest

def Operator.total (op : Operator) (key : String) (operand : Value) (object : Document)
    (inquire : Inquiry) (number : String → Option Value → Document → Nat) : Nat :=
  match op with
  | .predicate _ => 0
  | .combinator _ plan => (plan key operand object).total inquire number

mutual

/-- The count of clauses that are completed in a value and below it. `others` counts in values that
are no operands. -/
def completions (r : Registry) (beyond : Evaluator) (others : String → Value → Document → Nat)
    (operator : String) (body : Value) (object : Document) : Nat :=
  match r.get? operator with
  | none => 0
  | some op =>
    match body with
    | .document clauses => clauseCompletions r beyond others op clauses object
    | _ => 0
termination_by structural body

/-- The count of clauses that are completed in a body and below it. Nothing comes after a clause
that has no outcome, but what was completed below it stays. -/
def clauseCompletions (r : Registry) (beyond : Evaluator)
    (others : String → Value → Document → Nat) (op : Operator) (clauses : List (String × Value))
    (object : Document) : Nat :=
  match clauses with
  | [] => 0
  | (key, operand) :: rest =>
    let inquire := r.inquiry beyond operand
    let below := op.total key operand object inquire
      (operandOr (fun name inner => completions r beyond others name operand inner) others)
    match (op.runClause key operand object inquire).result with
    | some (.ok _) => below + 1 + clauseCompletions r beyond others op rest object
    | _ => below
termination_by structural clauses

end

namespace Registry

def completionsBeyond (r : Registry) : Nat → String → Value → Document → Nat
  | 0 => fun _ _ _ => 0
  | limit + 1 => Criteria.completions r (r.beyond limit) (r.completionsBeyond limit)

def completions (r : Registry) (limit : Nat) (operator : String) (body : Value)
    (object : Document) : Nat :=
  Criteria.completions r (r.beyond limit) (r.completionsBeyond limit) operator body object

end Registry

namespace Run

variable {α β : Type}

theorem clause_count_followed_by (r : Run α) (next : Except Failure α → Run β) :
    (r.followedBy next).clauseCount =
      r.clauseCount + r.result.elim 0 fun outcome => (next outcome).clauseCount := by
  unfold followedBy clauseCount
  cases r.result <;> simp

theorem clause_count_and_then (r : Run α) (next : α → Run β) :
    (r.andThen next).clauseCount =
      match r.result with
      | some (.ok value) => r.clauseCount + (next value).clauseCount
      | _ => r.clauseCount := by
  rw [andThen, clause_count_followed_by]
  rcases r.result with _ | _ | _ <;> rfl

theorem clause_count_completed (operator key : String) (outcome : Bool) (r : Run α) :
    (⟨r.result, .completed operator key outcome :: r.events⟩ : Run α).clauseCount =
      r.clauseCount + 1 :=
  List.countP_cons_of_pos rfl

end Run

theorem Plan.clause_count_run {inquire : Inquiry} {number : String → Option Value → Document → Nat}
    (h : ∀ name body object, (inquire name body object).clauseCount = number name body object)
    (plan : Plan) : (plan.run inquire).clauseCount = plan.total inquire number := by
  induction plan with
  | answer outcome => rfl
  | ask operator body object next ih =>
    rw [run, Run.clause_count_followed_by, h, total]
    simp only [ih]

theorem Operator.clause_count_run {inquire : Inquiry}
    {number : String → Option Value → Document → Nat}
    (h : ∀ name body object, (inquire name body object).clauseCount = number name body object)
    (op : Operator) (key : String) (operand : Value) (object : Document) :
    (op.runClause key operand object inquire).clauseCount =
      op.total key operand object inquire number := by
  cases op with
  | predicate test =>
    simp only [runClause, total, Verdict.run, Run.clauseCount]
    split <;> rfl
  | combinator fold plan => exact Plan.clause_count_run h _

section Equations

attribute [local simp] completions clauseCompletions

variable {r : Registry} {beyond : Evaluator} {others : String → Value → Document → Nat}
variable {operator : String} {op : Operator}

theorem completions_unregistered (h : r.get? operator = none) (body : Value) (object : Document) :
    completions r beyond others operator body object = 0 := by
  cases body <;> simp [h]

theorem completions_document (h : r.get? operator = some op) (clauses object : Document) :
    completions r beyond others operator (.document clauses) object =
      clauseCompletions r beyond others op clauses object := by
  simp [h]

theorem completions_no_document (h : r.get? operator = some op) {body : Value}
    (hb : ∀ clauses, body ≠ .document clauses) (object : Document) :
    completions r beyond others operator body object = 0 := by
  cases body with
  | document clauses => exact absurd rfl (hb clauses)
  | _ => simp [h]

theorem clause_completions_nil (object : Document) :
    clauseCompletions r beyond others op [] object = 0 := by
  simp

end Equations

section Counts

variable {r : Registry} {beyond : Evaluator} {others : String → Value → Document → Nat}

theorem evaluate_clause_count_of {operator : String} {body : Value} {object : Document}
    (h : ∀ op inner, r.get? operator = some op → body = .document inner →
      (evaluateClauses r beyond operator op inner object).clauseCount =
        clauseCompletions r beyond others op inner object) :
    (evaluate r beyond operator body object).clauseCount =
      completions r beyond others operator body object := by
  cases found : r.get? operator with
  | none =>
    rw [evaluate_unregistered found, completions_unregistered found]
    rfl
  | some op =>
    rcases body.document_or with ⟨inner, rfl⟩ | hd
    · rw [evaluate_document found, completions_document found]
      exact h op inner found rfl
    · rw [evaluate_no_document found beyond hd, completions_no_document found hd]
      rfl

theorem clause_runs_count_of {op : Operator} {clauses : Document} {object : Document}
    (h : ∀ clause ∈ clauses, ∀ name other inner,
      (r.inquiry beyond clause.2 name other inner).clauseCount =
        operandOr (fun name inner => completions r beyond others name clause.2 inner) others name
          other inner)
    (operator : String) : (evaluateClauses r beyond operator op clauses object).clauseCount =
      clauseCompletions r beyond others op clauses object := by
  induction clauses with
  | nil =>
    rw [evaluateClauses_nil, clause_completions_nil]
    rfl
  | cons clause rest ih =>
    obtain ⟨key, operand⟩ := clause
    obtain ⟨hc, hr⟩ := List.forall_mem_cons.mp h
    have below := op.clause_count_run hc key operand object
    rw [evaluateClauses_cons, clauseCompletions, Run.clause_count_and_then, ← below]
    rcases (op.runClause key operand object (r.inquiry beyond operand)).result with _ | _ | outcome
    · rfl
    · rfl
    · have own := Run.clause_count_completed operator key outcome
        ((evaluateClauses r beyond operator op rest object).map (outcome :: ·))
      dsimp only
      rw [own, Nat.add_assoc, Nat.add_comm 1, ← ih hr]
      rfl

theorem clause_runs_count
    (h : ∀ name body object, (beyond name body object).clauseCount = others name body object)
    (clauses : Document) (op : Operator) (operator : String) (object : Document) :
    (evaluateClauses r beyond operator op clauses object).clauseCount =
      clauseCompletions r beyond others op clauses object := by
  induction clauses using Document.nested_induction generalizing op operator object with
  | step clauses ih =>
    refine clause_runs_count_of (fun clause hm name other inner => ?_) operator
    obtain ⟨key, operand⟩ := clause
    cases other with
    | none =>
      apply evaluate_clause_count_of
      rintro op body found rfl
      exact ih key body hm op name inner
    | some value => exact h name value inner

theorem evaluate_clause_count
    (h : ∀ name body object, (beyond name body object).clauseCount = others name body object)
    (operator : String) (body : Value) (object : Document) :
    (evaluate r beyond operator body object).clauseCount =
      completions r beyond others operator body object :=
  evaluate_clause_count_of fun op inner _ _ => clause_runs_count h inner op operator object

theorem Registry.beyond_clause_count (r : Registry) (limit : Nat) (operator : String) (body : Value)
    (object : Document) : (r.beyond limit operator body object).clauseCount =
      r.completionsBeyond limit operator body object := by
  induction limit generalizing operator body object with
  | zero => rfl
  | succ limit ih => exact evaluate_clause_count ih operator body object

/-- The events of an evaluation show every clause that is completed, and no other one. -/
theorem Registry.run_body_clause_count (r : Registry) (limit : Nat) (operator : String)
    (body : Value) (object : Document) : (r.runBody limit operator body object).clauseCount =
      r.completions limit operator body object :=
  evaluate_clause_count (r.beyond_clause_count limit) operator body object

end Counts

end Criteria
