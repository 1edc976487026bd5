import Criteria.Proofs.DocumentLookup
import Criteria.Proofs.FieldClauses

/-!
# Limits of evaluation

A limit does nothing to a run but give it up: what a run comes to under one limit it comes to under
every larger one. Operators that have nothing but their operands evaluated need no limit at all.
-/

namespace Criteria

namespace Run

variable {α β : Type}

/-- The second run is the first one, or goes on from where the first one was given up. -/
def Within (r r' : Run α) : Prop := r = r' ∨ r.result = none ∧ r.events <+: r'.events

theorem Within.refl (r : Run α) : r.Within r := .inl rfl

theorem Within.eq_of_result {r r' : Run α} (h : r.Within r') (ended : r.result.isSome = true) :
    r' = r := by
  rcases h with rfl | ⟨none, -⟩
  · rfl
  · simp [none] at ended

theorem Within.followedBy {r r' : Run α} {next next' : Except Failure α → Run β}
    (h : r.Within r') (hn : ∀ outcome, (next outcome).Within (next' outcome)) :
    (r.followedBy next).Within (r'.followedBy next') := by
  rcases h with rfl | ⟨none, before⟩
  · cases result : r.result with
    | none => exact .inl (by simp [Run.followedBy, result])
    | some outcome =>
      rcases hn outcome with same | ⟨none, before⟩
      · exact .inl (by simp [Run.followedBy, result, same])
      · refine .inr ⟨by simp [Run.followedBy, result, none], ?_⟩
        simpa [Run.followedBy, result] using before
  · refine .inr ⟨by simp [Run.followedBy, none], ?_⟩
    cases result : r'.result with
    | none => simpa [Run.followedBy, none, result] using before
    | some outcome =>
      simpa [Run.followedBy, none, result] using before.trans (List.prefix_append ..)

theorem Within.map {r r' : Run α} (h : r.Within r') (f : α → β) :
    (r.map f).Within (r'.map f) := by
  rcases h with rfl | ⟨none, before⟩
  · exact .refl _
  · exact .inr ⟨by simp [Run.map, none], before⟩

theorem Within.andThen {r r' : Run α} {next next' : α → Run β} (h : r.Within r')
    (hn : ∀ value, (next value).Within (next' value)) :
    (r.andThen next).Within (r'.andThen next') := by
  refine h.followedBy fun outcome => ?_
  cases outcome with
  | ok value => exact hn value
  | error failure => exact .refl _

theorem Within.cons {r r' : Run α} (h : r.Within r') (event : Event) :
    Within ⟨r.result, event :: r.events⟩ ⟨r'.result, event :: r'.events⟩ := by
  rcases h with rfl | ⟨none, before⟩
  · exact .refl _
  · exact .inr ⟨none, List.cons_prefix_cons.mpr ⟨rfl, before⟩⟩

end Run

theorem Registry.fails_or_has_clauses (r : Registry) (operator : String) (body : Value)
    (object : Document) :
    (∃ failure, ∀ beyond, evaluate r beyond operator body object = .ofFailure failure) ∨
      ∃ op inner, r.get? operator = some op ∧ body = .document inner := by
  cases found : r.get? operator with
  | none => exact .inl ⟨_, fun beyond => evaluate_unregistered found beyond body object⟩
  | some op =>
    rcases body.document_or with ⟨inner, rfl⟩ | hd
    · exact .inr ⟨op, inner, rfl, rfl⟩
    · exact .inl ⟨_, fun beyond => evaluate_no_document found beyond hd object⟩

section Larger

variable {r : Registry} {beyond beyond' : Evaluator}

theorem Plan.run_within {inquire inquire' : Inquiry}
    (h : ∀ name body object, (inquire name body object).Within (inquire' name body object))
    (plan : Plan) : (plan.run inquire).Within (plan.run inquire') := by
  induction plan with
  | answer outcome => exact .refl _
  | ask operator body object next ih => exact (h operator body object).followedBy ih

theorem Operator.run_clause_within {inquire inquire' : Inquiry}
    (h : ∀ name body object, (inquire name body object).Within (inquire' name body object))
    (op : Operator) (key : String) (operand : Value) (object : Document) :
    (op.runClause key operand object inquire).Within
      (op.runClause key operand object inquire') := by
  cases op with
  | predicate test => exact .refl _
  | combinator fold plan => exact Plan.run_within h _

theorem evaluate_within_of {operator : String} {body : Value} {object : Document}
    (h : ∀ op inner, r.get? operator = some op → body = .document inner →
      (evaluateClauses r beyond operator op inner object).Within
        (evaluateClauses r beyond' operator op inner object)) :
    (evaluate r beyond operator body object).Within
      (evaluate r beyond' operator body object) := by
  rcases r.fails_or_has_clauses operator body object with ⟨_, fails⟩ | ⟨op, inner, found, rfl⟩
  · rw [fails, fails]
    exact .refl _
  · rw [evaluate_document found, evaluate_document found]
    exact (h op inner found rfl).map _

theorem clauses_within_of {op : Operator} {clauses object : Document}
    (h : ∀ clause ∈ clauses,
      (op.runClause clause.1 clause.2 object (r.inquiry beyond clause.2)).Within
        (op.runClause clause.1 clause.2 object (r.inquiry beyond' clause.2)))
    (operator : String) : (evaluateClauses r beyond operator op clauses object).Within
      (evaluateClauses r beyond' operator op clauses object) := by
  induction clauses with
  | nil =>
    rw [evaluateClauses_nil, evaluateClauses_nil]
    exact .refl _
  | cons clause rest ih =>
    obtain ⟨hc, hr⟩ := List.forall_mem_cons.mp h
    rw [evaluateClauses_cons, evaluateClauses_cons]
    exact hc.andThen fun outcome => ((ih hr).map _).cons _

theorem clauses_within (h : ∀ name body object,
      (beyond name body object).Within (beyond' name body object))
    (clauses : Document) (op : Operator) (operator : String) (object : Document) :
    (evaluateClauses r beyond operator op clauses object).Within
      (evaluateClauses r beyond' operator op clauses object) := by
  induction clauses using Document.nested_induction generalizing op operator object with
  | step clauses ih =>
    refine clauses_within_of (fun clause hm => ?_) operator
    obtain ⟨key, operand⟩ := clause
    refine op.run_clause_within (fun name other inner => ?_) key operand object
    cases other with
    | none =>
      apply evaluate_within_of
      rintro op body found rfl
      exact ih key body hm op name inner
    | some value => exact h name value inner

theorem evaluate_within (h : ∀ name body object,
      (beyond name body object).Within (beyond' name body object))
    (operator : String) (body : Value) (object : Document) :
    (evaluate r beyond operator body object).Within (evaluate r beyond' operator body object) :=
  evaluate_within_of fun op inner _ _ => clauses_within h inner op operator object

theorem Registry.beyond_within (r : Registry) (limit : Nat) (operator : String) (body : Value)
    (object : Document) :
    (r.beyond limit operator body object).Within (r.beyond (limit + 1) operator body object) := by
  induction limit generalizing operator body object with
  | zero => exact .inr ⟨rfl, List.nil_prefix⟩
  | succ limit ih => exact evaluate_within ih operator body object

/-- What an evaluation comes to under a limit it comes to under every larger one. -/
theorem Registry.run_body_of_larger_limit (r : Registry) {limit limit' : Nat}
    (le : limit ≤ limit') (operator : String) (body : Value) (object : Document)
    (ended : (r.runBody limit operator body object).result.isSome = true) :
    r.runBody limit' operator body object = r.runBody limit operator body object := by
  induction limit', le using Nat.le_induction with
  | base => rfl
  | succ limit' _ ih =>
    rw [← ih] at ended ⊢
    exact (r.beyond_within (limit' + 1) operator body object).eq_of_result ended

end Larger

/-- The plan has nothing but the operand evaluated. -/
inductive Plan.KeepsToOperand : Plan → Prop where
  | answer (outcome : Outcome) : KeepsToOperand (.answer outcome)
  | ask (operator : String) (object : Document) {next : Outcome → Plan}
      (h : ∀ outcome, (next outcome).KeepsToOperand) :
      KeepsToOperand (.ask operator none object next)

def Operator.KeepsToOperand : Operator → Prop
  | predicate _ => True
  | combinator _ plan => ∀ key operand object, (plan key operand object).KeepsToOperand

theorem Builtin.keeps_to_operand (b : Builtin) : b.operator.KeepsToOperand := by
  cases b with
  | and | or => exact fun key _ object => .ask key object .answer
  | not => exact fun key _ object => .ask key object fun outcome => .answer _
  | _ => trivial

section Ends

variable {r : Registry} {beyond : Evaluator}

theorem Plan.KeepsToOperand.run_ends {plan : Plan} (h : plan.KeepsToOperand) {inquire : Inquiry}
    (ends : ∀ name object, (inquire name none object).result.isSome = true) :
    (plan.run inquire).result.isSome = true := by
  induction h with
  | answer outcome => rfl
  | ask operator object h ih =>
    obtain ⟨outcome, result⟩ := Option.isSome_iff_exists.mp (ends operator object)
    simpa [Plan.run, Run.followedBy, result] using ih outcome

theorem Operator.KeepsToOperand.run_clause_ends {op : Operator} (h : op.KeepsToOperand)
    {inquire : Inquiry} (ends : ∀ name object, (inquire name none object).result.isSome = true)
    (key : String) (operand : Value) (object : Document) :
    (op.runClause key operand object inquire).result.isSome = true := by
  cases op with
  | predicate test => rfl
  | combinator fold plan => exact (h key operand object).run_ends ends

theorem evaluate_ends_of {operator : String} {body : Value} {object : Document}
    (h : ∀ op inner, r.get? operator = some op → body = .document inner →
      (evaluateClauses r beyond operator op inner object).result.isSome = true) :
    (evaluate r beyond operator body object).result.isSome = true := by
  rcases r.fails_or_has_clauses operator body object with ⟨_, fails⟩ | ⟨op, inner, found, rfl⟩
  · rw [fails]
    rfl
  · rw [evaluate_document found, Run.map, Option.isSome_map]
    exact h op inner found rfl

theorem clauses_end_of {op : Operator} {clauses object : Document}
    (h : ∀ clause ∈ clauses,
      (op.runClause clause.1 clause.2 object (r.inquiry beyond clause.2)).result.isSome = true)
    (operator : String) :
    (evaluateClauses r beyond operator op clauses object).result.isSome = true := by
  induction clauses with
  | nil =>
    rw [evaluateClauses_nil]
    rfl
  | cons clause rest ih =>
    obtain ⟨hc, hr⟩ := List.forall_mem_cons.mp h
    obtain ⟨outcome, ho⟩ := Option.isSome_iff_exists.mp hc
    rw [evaluateClauses_cons]
    cases outcome with
    | ok b => simpa [Run.andThen, Run.followedBy, ho, Run.map] using ih hr
    | error failure => simp [Run.andThen, Run.followedBy, Run.ofFailure, ho]

theorem clauses_end (h : ∀ name op, r.get? name = some op → op.KeepsToOperand)
    (clauses : Document) {op : Operator} (ho : op.KeepsToOperand) (operator : String)
    (object : Document) :
    (evaluateClauses r beyond operator op clauses object).result.isSome = true := by
  induction clauses using Document.nested_induction generalizing op operator object with
  | step clauses ih =>
    refine clauses_end_of (fun clause hm => ?_) operator
    obtain ⟨key, operand⟩ := clause
    refine ho.run_clause_ends (fun name inner => ?_) key operand object
    apply evaluate_ends_of
    rintro op body found rfl
    exact ih key body hm (h name op found) name inner

/-- Where all operators keep to their operands every evaluation comes to an end, under any limit. -/
theorem Registry.run_body_ends (r : Registry)
    (h : ∀ name op, r.get? name = some op → op.KeepsToOperand) (limit : Nat) (operator : String)
    (body : Value) (object : Document) :
    (r.runBody limit operator body object).result.isSome = true :=
  evaluate_ends_of fun op inner found _ => clauses_end h inner (h operator op found) operator object

end Ends

end Criteria
