import Criteria.Proofs.FieldClauses

/-!
# Two phases of a match

Evaluation with the built-in operators goes over a query once and mixes truth with failure. Here the
two are taken apart. The first phase lists every failure of a query in document order and asks for
no truth value; the second one computes truth values as if nothing could fail. A match is the first
failure if there is one, and else the truth value.
-/

namespace Criteria

namespace Builtin

mutual

def operandFailures (key : String) (operand : Value) (object : Document) : List Failure :=
  match ofName? key with
  | none => [.unknownOperator key]
  | some b =>
    match operand with
    | .document clauses => failures b clauses object
    | operand => [.ofValue key .definition "not a document" operand]
termination_by structural operand

/-- Failures of all clauses of a body, from the first clause to the last. -/
def failures (self : Builtin) (clauses : List (String × Value)) (object : Document) :
    List Failure :=
  match clauses with
  | [] => []
  | (key, operand) :: rest =>
    (if self.isCombinator then operandFailures key operand object
      else (self.fieldFailure? key operand object).toList) ++ failures self rest object
termination_by structural clauses

end

/-- When a body holds: under `or` if it is empty or something in it holds, under `not` if nothing in
it holds, and else if all of it holds. -/
def combineTruths (self : Builtin) (truths : List Bool) : Bool :=
  match self with
  | or => truths.isEmpty || truths.any id
  | not => truths.all Bool.not
  | _ => truths.all id

mutual

def operandHolds (key : String) (operand : Value) (object : Document) : Bool :=
  match ofName? key with
  | none => false
  | some b =>
    match operand with
    | .document clauses => b.combineTruths (truths b clauses object)
    | _ => false
termination_by structural operand

/-- Truth values inside a body, clause by clause. Negation is left to `combineTruths`. -/
def truths (self : Builtin) (clauses : List (String × Value)) (object : Document) : List Bool :=
  match clauses with
  | [] => []
  | (key, operand) :: rest =>
    (if self.isCombinator then operandHolds key operand object
      else self.fieldHolds key operand object) :: truths self rest object
termination_by structural clauses

end

def holds (self : Builtin) (clauses object : Document) : Bool :=
  self.combineTruths (self.truths clauses object)

def clauseFailures (self : Builtin) (key : String) (operand : Value) (object : Document) :
    List Failure :=
  if self.isCombinator then operandFailures key operand object
  else (self.fieldFailure? key operand object).toList

def clauseTruth (self : Builtin) (key : String) (operand : Value) (object : Document) : Bool :=
  if self.isCombinator then operandHolds key operand object
  else self.fieldHolds key operand object

section Equations

attribute [local simp] operandFailures failures operandHolds truths

variable (self : Builtin) (key : String) (operand : Value) (rest object : Document)

theorem failures_nil : self.failures [] object = [] := by simp

theorem failures_cons : self.failures ((key, operand) :: rest) object =
    self.clauseFailures key operand object ++ self.failures rest object := by
  simp [clauseFailures]

theorem truths_nil : self.truths [] object = [] := by simp

theorem truths_cons : self.truths ((key, operand) :: rest) object =
    self.clauseTruth key operand object :: self.truths rest object := by
  simp [clauseTruth]

theorem failures_eq_flat_map (clauses : Document) : self.failures clauses object =
    clauses.flatMap fun clause => self.clauseFailures clause.1 clause.2 object := by
  induction clauses with
  | nil => rw [failures_nil, List.flatMap_nil]
  | cons clause rest ih => rw [failures_cons, ih, List.flatMap_cons]

theorem truths_eq_map (clauses : Document) : self.truths clauses object =
    clauses.map fun clause => self.clauseTruth clause.1 clause.2 object := by
  induction clauses with
  | nil => rw [truths_nil, List.map_nil]
  | cons clause rest ih => rw [truths_cons, ih, List.map_cons]

variable {self b : Builtin} {key : String} {operand : Value} {object : Document}

theorem clause_failures_of_predicate (h : self.isCombinator = false) :
    self.clauseFailures key operand object =
      (self.fieldFailure? key operand object).toList := by
  simp [clauseFailures, h]

theorem clause_truth_of_predicate (h : self.isCombinator = false) :
    self.clauseTruth key operand object = self.fieldHolds key operand object := by
  simp [clauseTruth, h]

theorem clause_failures_of_unknown (h : self.isCombinator = true) (hk : ofName? key = none) :
    self.clauseFailures key operand object = [.unknownOperator key] := by
  simp [clauseFailures, h, hk]

theorem clause_truth_of_unknown (h : self.isCombinator = true) (hk : ofName? key = none) :
    self.clauseTruth key operand object = false := by
  simp [clauseTruth, h, hk]

theorem clause_failures_of_scalar (h : self.isCombinator = true) (hk : ofName? key = some b)
    (ho : ∀ clauses, operand ≠ .document clauses) :
    self.clauseFailures key operand object =
      [.ofValue key .definition "not a document" operand] := by
  cases operand with
  | document clauses => exact absurd rfl (ho clauses)
  | _ => simp [clauseFailures, h, hk]

theorem clause_truth_of_scalar (h : self.isCombinator = true) (hk : ofName? key = some b)
    (ho : ∀ clauses, operand ≠ .document clauses) :
    self.clauseTruth key operand object = false := by
  cases operand with
  | document clauses => exact absurd rfl (ho clauses)
  | _ => simp [clauseTruth, h, hk]

theorem clause_failures_of_body (h : self.isCombinator = true) (hk : ofName? key = some b)
    (clauses : Document) :
    self.clauseFailures key (.document clauses) object = b.failures clauses object := by
  simp [clauseFailures, h, hk]

theorem clause_truth_of_body (h : self.isCombinator = true) (hk : ofName? key = some b)
    (clauses : Document) :
    self.clauseTruth key (.document clauses) object = b.holds clauses object := by
  simp [clauseTruth, holds, h, hk]

/-- A query stands in a clause like any other body. -/
theorem failures_of_query (query : Document) :
    failures .and query object = clauseFailures .and rootOperator (.document query) object :=
  (clause_failures_of_body rfl (ofName?_name .and) query).symm

theorem holds_of_query (query : Document) :
    holds .and query object = clauseTruth .and rootOperator (.document query) object :=
  (clause_truth_of_body rfl (ofName?_name .and) query).symm

end Equations

theorem clause_induction {motive : Builtin → String → Value → Prop}
    (predicate : ∀ self key operand, self.isCombinator = false → motive self key operand)
    (unknown : ∀ self key operand, self.isCombinator = true → ofName? key = none →
      motive self key operand)
    (scalar : ∀ self key operand b, self.isCombinator = true → ofName? key = some b →
      (∀ clauses, operand ≠ .document clauses) → motive self key operand)
    (body : ∀ self key b clauses, self.isCombinator = true → ofName? key = some b →
      (∀ clause ∈ clauses, motive b clause.1 clause.2) → motive self key (.document clauses))
    (self : Builtin) (key : String) (operand : Value) : motive self key operand := by
  cases hc : self.isCombinator with
  | false => exact predicate self key operand hc
  | true =>
    cases hk : ofName? key with
    | none => exact unknown self key operand hc hk
    | some b =>
      cases operand with
      | document clauses =>
        refine body self key b clauses hc hk fun clause hm => ?_
        have := List.sizeOf_lt_of_mem hm
        exact clause_induction predicate unknown scalar body b clause.1 clause.2
      | _ => exact scalar self key _ b hc hk (by simp)
termination_by sizeOf operand
decreasing_by
  obtain ⟨key, operand⟩ := clause
  simp at this ⊢
  omega

theorem combine_adjusted (self : Builtin) (truths : List Bool) :
    self.operator.fold.combine (truths.map self.adjust) = self.combineTruths truths := by
  cases self <;>
    simp [operator, Operator.fold, Fold.combine, combineTruths, adjust, Function.comp_def,
      Function.id_def]

def clauseRun (self : Builtin) (beyond : Evaluator) (key : String) (operand : Value)
    (object : Document) : Run Bool :=
  self.operator.runClause key operand object (Registry.builtin.inquiry beyond operand)

section Runs

variable {self b : Builtin} {beyond : Evaluator} {key : String} {operand : Value}
variable {object : Document}

theorem clause_run_of_unknown (h : self.isCombinator = true) (hk : ofName? key = none) :
    self.clauseRun beyond key operand object = .ofFailure (.unknownOperator key) := by
  rw [clauseRun, combinator_run _ _ h, Registry.inquiry_none,
    evaluate_unregistered (get?_of_no_name hk)]
  rfl

theorem clause_run_of_scalar (h : self.isCombinator = true) (hk : ofName? key = some b)
    (ho : ∀ clauses, operand ≠ .document clauses) : self.clauseRun beyond key operand object =
      .ofFailure (.ofValue key .definition "not a document" operand) := by
  rw [clauseRun, combinator_run _ _ h, Registry.inquiry_none,
    evaluate_no_document (get?_of_name hk) beyond ho]
  rfl

theorem clause_run_of_body (h : self.isCombinator = true) (hk : ofName? key = some b)
    (clauses : Document) : self.clauseRun beyond key (.document clauses) object =
      ((evaluateClauses .builtin beyond key b.operator clauses object).map fun outcomes =>
        b.operator.fold.combine outcomes).map self.adjust := by
  rw [clauseRun, combinator_run _ _ h, Registry.inquiry_none, evaluate_document (get?_of_name hk)]

theorem clause_runs_cons (operator : String) (rest : List (String × Value)) :
    evaluateClauses .builtin beyond operator self.operator ((key, operand) :: rest) object =
      (self.clauseRun beyond key operand object).andThen fun outcome =>
        let following :=
          (evaluateClauses .builtin beyond operator self.operator rest object).map (outcome :: ·)
        ⟨following.result, .completed operator key outcome :: following.events⟩ := by
  rw [evaluateClauses_cons]
  rfl

theorem clause_results {clauses : List (String × Value)}
    (h : ∀ clause ∈ clauses, (self.clauseRun beyond clause.1 clause.2 object).result =
      some (settle (self.clauseFailures clause.1 clause.2 object)
        (self.adjust (self.clauseTruth clause.1 clause.2 object)))) (operator : String) :
    (evaluateClauses .builtin beyond operator self.operator clauses object).result =
      some (settle (self.failures clauses object)
        ((self.truths clauses object).map self.adjust)) := by
  induction clauses with
  | nil => simp [Run.ofValue, failures_nil, truths_nil]
  | cons clause rest ih =>
    obtain ⟨hc, hr⟩ := List.forall_mem_cons.mp h
    rw [clause_runs_cons, failures_cons, truths_cons, List.map_cons]
    apply and_then_settle hc
    simp only [Run.map, ih hr, Option.map_some, settle_map]

end Runs

theorem clause_result (self : Builtin) (beyond : Evaluator) (key : String) (operand : Value)
    (object : Document) : (self.clauseRun beyond key operand object).result =
      some (settle (self.clauseFailures key operand object)
        (self.adjust (self.clauseTruth key operand object))) := by
  induction self, key, operand using clause_induction with
  | predicate self key operand hc =>
    rw [clause_failures_of_predicate hc, clause_truth_of_predicate hc, adjust_predicate hc]
    exact predicate_result key operand object hc _
  | unknown self key operand hc hk =>
    rw [clause_run_of_unknown hc hk, clause_failures_of_unknown hc hk]
    rfl
  | scalar self key operand b hc hk ho =>
    rw [clause_run_of_scalar hc hk ho, clause_failures_of_scalar hc hk ho]
    rfl
  | body self key b clauses hc hk ih =>
    rw [clause_run_of_body hc hk, clause_failures_of_body hc hk, clause_truth_of_body hc hk]
    simp only [Run.map, clause_results ih, Option.map_some, settle_map, combine_adjusted, holds]

end Builtin

open Builtin

variable (limit : Nat)

theorem run_of_query (query object : Document) : Registry.builtin.run limit query object =
    (evaluateClauses .builtin (Registry.builtin.beyond limit) rootOperator Builtin.and.operator
      query object).map fun outcomes => Builtin.and.operator.fold.combine outcomes := by
  rw [Registry.run, Registry.runBody, evaluate_document get?_root]

theorem run_result (query object : Document) : (Registry.builtin.run limit query object).result =
    some (settle (failures .and query object) (holds .and query object)) := by
  have clauses : ∀ clause ∈ query, _ := fun clause _ =>
    clause_result .and (Registry.builtin.beyond limit) clause.1 clause.2 object
  rw [run_of_query]
  simp only [Run.map, clause_results clauses, Option.map_some, settle_map, combine_adjusted, holds]

theorem run_of_predicate {self : Builtin} (h : self.isCombinator = false) (field : String)
    (operand : Value) (object : Document) :
    (Registry.builtin.run limit [(self.name, .document [(field, operand)])] object).result =
      some (settle (self.fieldFailure? field operand object).toList
        (self.fieldHolds field operand object)) := by
  have key := Builtin.ofName?_name self
  have failures : self.failures [(field, operand)] object =
      (self.fieldFailure? field operand object).toList := by
    rw [Builtin.failures_cons, Builtin.failures_nil, List.append_nil,
      Builtin.clause_failures_of_predicate h]
  have holds : self.holds [(field, operand)] object = self.fieldHolds field operand object := by
    rw [Builtin.holds, Builtin.truths_cons, Builtin.truths_nil, Builtin.clause_truth_of_predicate h]
    cases self with
    | and | or | not => cases h
    | _ => simp [Builtin.combineTruths]
  rw [run_result, Builtin.failures_cons, Builtin.failures_nil, List.append_nil, Builtin.holds,
    Builtin.truths_cons, Builtin.truths_nil, Builtin.clause_failures_of_body rfl key,
    Builtin.clause_truth_of_body rfl key, failures]
  simp [Builtin.combineTruths, holds]

/-- A match fails with the first failure of the whole query in document order, however deep it lies
and whatever truth values stand before it. Without a failure it is the truth value of the query. -/
theorem match_two_phase (query object : Document) :
    (∀ failure, (Registry.builtin.run limit query object).result = some (.error failure) ↔
      (failures .and query object).head? = some failure) ∧
    ∀ outcome, (Registry.builtin.run limit query object).result = some (.ok outcome) ↔
      failures .and query object = [] ∧ holds .and query object = outcome := by
  rw [run_result]
  simp only [Option.some.injEq]
  exact ⟨fun _ => settle_eq_error_iff, fun _ => settle_eq_ok_iff⟩

example : (Registry.builtin.run 0
    [("$or", .document [("$equal", .document []), ("$size", .null)])] []).result =
      some (.error (.unknownOperator "$size")) := by
  rfl

end Criteria
