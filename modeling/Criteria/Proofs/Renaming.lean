import Criteria.Proofs.HostEffects
import Criteria.Proofs.NamedKeys
import Mathlib.Logic.Equiv.Basic

/-!
# Names of operators mean nothing

Operators of a registry can be renamed, and a query with them: only the keys that stand for
operators change, and which keys do is up to the registry. Evaluation then runs as before under
other names. The root keeps its name, since evaluation starts from it.
-/

namespace Criteria

/-- One registry holds the built-in operators of another one under names that a function makes of
theirs. -/
structure IsRenaming (f : String → String) (r r' : Registry) : Prop where
  injective : Function.Injective f
  root : f rootOperator = rootOperator
  builtin : ∀ name op, r.get? name = some op → ∃ b : Builtin, b.operator = op
  entries : ∀ name op, r'.get? name = some op ↔ ∃ n, f n = name ∧ r.get? n = some op

def namesOperators (op? : Option Operator) : Bool := op?.any Operator.isCombinator

mutual

def renameOperand (f : String → String) (r : Registry) (op? : Option Operator) (operand : Value) :
    Value :=
  match operand with
  | .document clauses => .document (renameBody f r op? clauses)
  | operand => operand
termination_by structural operand

def renameBody (f : String → String) (r : Registry) (op? : Option Operator)
    (clauses : List (String × Value)) : List (String × Value) :=
  match clauses with
  | [] => []
  | (key, operand) :: rest =>
    (if namesOperators op? then (f key, renameOperand f r (r.get? key) operand)
      else (key, operand)) :: renameBody f r op? rest
termination_by structural clauses

end

def renameClause (f : String → String) (r : Registry) (op? : Option Operator)
    (clause : String × Value) : String × Value :=
  if namesOperators op? then (f clause.1, renameOperand f r (r.get? clause.1) clause.2) else clause

def renameQuery (f : String → String) (r : Registry) (query : Document) : Document :=
  renameBody f r (r.get? rootOperator) query

/-- Failures of evaluation itself name an operator as it is registered. Failures of predicates have
other reasons and name the predicate. -/
def Failure.rename (f : String → String) : Failure → Failure
  | unknownOperator name => unknownOperator (f name)
  | typeMismatch operator side reason value =>
    typeMismatch (if reason = "not a document" then f operator else operator) side reason value

def Event.rename (f : String → String) (r : Registry) : Event → Event
  | completed operator key outcome =>
    completed (f operator) (if namesOperators (r.get? operator) then f key else key) outcome
  | rejectedPattern => rejectedPattern

namespace Run

variable {α β : Type} (f : String → String) (r : Registry)

def rename (run : Run α) : Run α :=
  ⟨run.result.map (Except.mapError (Failure.rename f)), run.events.map (Event.rename f r)⟩

theorem rename_map (g : α → β) (run : Run α) : (run.map g).rename f r = (run.rename f r).map g := by
  obtain ⟨_ | _ | _, events⟩ := run <;> rfl

theorem rename_and_then (run : Run α) (next : α → Run β) :
    (run.andThen next).rename f r =
      (run.rename f r).andThen fun value => (next value).rename f r := by
  obtain ⟨_ | _ | _, events⟩ := run <;>
    simp [andThen, followedBy, ofFailure, rename, Except.mapError]

end Run

theorem Verdict.rename_run (f : String → String) (r : Registry) {v : Verdict}
    (h : ∀ failure, v.outcome = .error failure → failure.rename f = failure) :
    v.run.rename f r = v.run := by
  obtain ⟨outcome, rejectedPattern⟩ := v
  have result : outcome.mapError (Failure.rename f) = outcome := by
    cases outcome with
    | ok _ => rfl
    | error failure => exact congrArg Except.error (h failure rfl)
  cases rejectedPattern <;> simp [Run.rename, Verdict.run, Event.rename, result]

namespace Builtin

variable {self : Builtin} {key : String} {operand : Value} {object : Document} {failure : Failure}

theorem rename_field_failure (f : String → String)
    (h : self.fieldFailure? key operand object = some failure) : failure.rename f = failure := by
  have kept {side : Side} {reason : String} {value : Option Value}
      (hr : reason ≠ "not a document")
      (hf : some (.ofValue self.name side reason value) = some failure) :
      failure.rename f = failure := by
    obtain rfl := Option.some.inj hf
    simp [Failure.ofValue, Failure.rename, hr]
  cases self with
  | and | or | not | equal => cases h
  | contain =>
    simp only [fieldFailure?] at h
    split at h
    · cases h
    · exact kept (by decide) h
  | pattern =>
    simp only [fieldFailure?] at h
    split at h
    · split at h
      · split at h
        · cases h
        · exact kept (by decide) h
      · exact kept (by decide) h
    · exact kept (by decide) h
  | gt | lt =>
    simp only [fieldFailure?] at h
    split at h
    · split at h
      · cases h
      · exact kept (by decide) h
    · exact kept (by decide) h

theorem predicate_of_no_combinator (hc : self.isCombinator = false) :
    ∃ test, self.operator = .predicate test := by
  cases self with
  | and | or | not => cases hc
  | _ => exact ⟨_, rfl⟩

/-- The failures of a predicate name the predicate and not what it is registered as. -/
theorem rename_predicate_failure (f : String → String) {test : Predicate}
    (ht : self.operator = .predicate test)
    (h : (test key operand object).outcome = .error failure) : failure.rename f = failure := by
  have hc : self.isCombinator = false := by
    rw [← operator_is_combinator, ht]
    rfl
  have result := predicate_result key operand object hc fun _ _ _ => .ofValue true
  rw [ht] at result
  have first := settle_eq_error_iff.mp ((Option.some.inj result).symm.trans h)
  rw [Option.head?_toList] at first
  exact rename_field_failure f first

theorem rename_predicate_run (f : String → String) (r : Registry) (hc : self.isCombinator = false)
    (ev : Inquiry) : (self.operator.runClause key operand object ev).rename f r =
      self.operator.runClause key operand object ev := by
  obtain ⟨test, ht⟩ := predicate_of_no_combinator hc
  rw [ht]
  exact Verdict.rename_run f r fun failure h => rename_predicate_failure f ht h

end Builtin

section Evaluation

attribute [local simp] renameOperand renameBody

variable {f : String → String} {r r' : Registry} {beyond beyond' : Evaluator}

theorem rename_body_eq_map (op? : Option Operator) (clauses : Document) :
    renameBody f r op? clauses = clauses.map (renameClause f r op?) := by
  induction clauses with
  | nil => simp
  | cons clause rest ih => simp [ih, renameClause]

theorem rename_operand_document (op? : Option Operator) (clauses : Document) :
    renameOperand f r op? (.document clauses) =
      .document (clauses.map (renameClause f r op?)) := by
  rw [renameOperand, rename_body_eq_map]

theorem rename_operand_of_scalar {operand : Value} (h : ∀ clauses, operand ≠ .document clauses)
    (op? : Option Operator) : renameOperand f r op? operand = operand := by
  cases operand with
  | document clauses => exact absurd rfl (h clauses)
  | _ => simp

theorem IsRenaming.get? (h : IsRenaming f r r') (name : String) :
    r'.get? (f name) = r.get? name := by
  ext op
  rw [h.entries]
  constructor
  · rintro ⟨n, hn, found⟩
    rwa [h.injective hn] at found
  · exact fun found => ⟨name, rfl, found⟩

theorem clauses_of_renamed {operator : String} {op : Operator} {object : Document}
    (found : r.get? operator = some op) {clauses : Document}
    (h : ∀ clause ∈ clauses,
      let renamed := renameClause f r (some op) clause
      op.runClause renamed.1 renamed.2 object (r'.inquiry beyond' renamed.2) =
        (op.runClause clause.1 clause.2 object (r.inquiry beyond clause.2)).rename f r) :
    evaluateClauses r' beyond' (f operator) op (clauses.map (renameClause f r (some op))) object =
      (evaluateClauses r beyond operator op clauses object).rename f r := by
  induction clauses with
  | nil => simp [Run.ofValue, Run.rename, Except.mapError]
  | cons clause rest ih =>
    obtain ⟨hc, hr⟩ := List.forall_mem_cons.mp h
    have event (outcome : Bool) : Event.rename f r (.completed operator clause.1 outcome) =
        .completed (f operator) (renameClause f r (some op) clause).1 outcome := by
      rw [Event.rename, found, renameClause]
      split <;> rfl
    rw [List.map_cons, evaluateClauses_cons, evaluateClauses_cons, Run.rename_and_then, hc, ih hr]
    congr 1
    funext outcome
    simp only [Run.rename, Run.map, List.map_cons, event]
    obtain _ | _ | _ := (evaluateClauses r beyond operator op rest object).result <;> rfl

theorem evaluate_of_renamed (h : IsRenaming f r r') (beyond beyond' : Evaluator) (name : String)
    (operand : Value) (object : Document)
    (bodies : ∀ op inner, r.get? name = some op → operand = .document inner →
      evaluateClauses r' beyond' (f name) op (inner.map (renameClause f r (some op))) object =
        (evaluateClauses r beyond name op inner object).rename f r) :
    evaluate r' beyond' (f name) (renameOperand f r (r.get? name) operand) object =
      (evaluate r beyond name operand object).rename f r := by
  cases found : r.get? name with
  | none =>
    rw [evaluate_unregistered found, evaluate_unregistered ((h.get? name).trans found)]
    rfl
  | some op =>
    have found' : r'.get? (f name) = some op := (h.get? name).trans found
    rcases operand.document_or with ⟨inner, rfl⟩ | hd
    · rw [rename_operand_document, evaluate_document found', evaluate_document found,
        bodies op inner found rfl, Run.rename_map]
    · rw [rename_operand_of_scalar hd, evaluate_no_document found' beyond' hd,
        evaluate_no_document found beyond hd]
      rfl

theorem IsRenaming.clauses (h : IsRenaming f r r') (clauses : Document) {object : Document}
    {operator : String} {op : Operator} (found : r.get? operator = some op) :
    evaluateClauses r' beyond' (f operator) op (clauses.map (renameClause f r (some op))) object =
      (evaluateClauses r beyond operator op clauses object).rename f r := by
  -- The operator above decides which keys are renamed, so it varies with the body.
  induction clauses using Document.nested_induction generalizing operator op with
  | step clauses ih =>
    refine clauses_of_renamed found fun clause hm => ?_
    obtain ⟨key, operand⟩ := clause
    obtain ⟨self, rfl⟩ := h.builtin operator op found
    have names : namesOperators (some self.operator) = self.isCombinator :=
      self.operator_is_combinator
    cases hc : self.isCombinator with
    | false =>
      simp only [renameClause, names, hc, Bool.false_eq_true, if_false]
      rw [Builtin.rename_predicate_run f r hc]
      exact Builtin.run_clause_of_field operand _ _ hc rfl
    | true =>
      simp only [renameClause, names, hc, if_true]
      rw [Builtin.combinator_run _ _ hc, Builtin.combinator_run _ _ hc, Run.rename_map]
      simp only [Registry.inquiry_none]
      congr 1
      refine evaluate_of_renamed h _ _ key operand object ?_
      rintro op inner found rfl
      exact ih key inner hm found

theorem IsRenaming.run (h : IsRenaming f r r') (limit : Nat) (query object : Document) :
    r'.run limit (renameQuery f r query) object = (r.run limit query object).rename f r := by
  have clauses := evaluate_of_renamed h (r.beyond limit) (r'.beyond limit) rootOperator
    (.document query) object fun op inner found _ => h.clauses inner found
  rw [rename_operand_document, h.root] at clauses
  rw [Registry.run, Registry.run, Registry.runBody, Registry.runBody, renameQuery,
    rename_body_eq_map, clauses]

theorem IsRenaming.run_ends (h : IsRenaming f r r') (limit : Nat) (query object : Document) :
    (r.run limit query object).result.isSome = true := by
  refine r.run_body_ends (fun name op found => ?_) limit rootOperator (.document query) object
  obtain ⟨b, rfl⟩ := h.builtin name op found
  exact b.keeps_to_operand

end Evaluation

/-- Evaluation asks for nothing about names but what is registered under them. Under other names a
query gives the same answer, or the same failure but for the names of operators in the query, and
the lines are those of the same clauses under other names. Failures of predicates do not change. -/
theorem match_of_renamed_operators (h : Host) {f : String → String} {r r' : Registry}
    (hr : IsRenaming f r r') (query object : Document) (elapsed elapsed' : UInt64) :
    let given := h.decide r query object elapsed
    let renamed := h.decide r' (renameQuery f r query) object elapsed'
    let events := (r.run h.limit query object).events
    given.1.isSome = true ∧
      (∀ outcome, renamed.1 = some (.ok outcome) ↔ given.1 = some (.ok outcome)) ∧
      (∀ failure, given.1 = some (.error failure) →
        renamed.1 = some (.error (failure.rename f))) ∧
      (∀ (b : Builtin) test, b.operator = .predicate test → ∀ field operand o failure,
        (test field operand o).outcome = .error failure → failure.rename f = failure) ∧
      given.2.captured = h.captured.map (· ++ events.filterMap Event.line?) ∧
      renamed.2.captured =
        h.captured.map (· ++ (events.map (Event.rename f r)).filterMap Event.line?) := by
  intro given renamed events
  have run := hr.run h.limit query object
  have result : renamed.1 = given.1.map (Except.mapError (Failure.rename f)) :=
    congrArg Run.result run
  refine ⟨hr.run_ends h.limit query object, fun outcome => ?_, fun failure hf => ?_,
    fun b test ht field operand o failure hf => Builtin.rename_predicate_failure f ht hf, ?_, ?_⟩
  · rw [result]
    obtain _ | _ | _ := given.1 <;> simp [Except.mapError]
  · rw [result, hf]
    rfl
  · exact h.decide_captured r query object elapsed
  · exact (h.decide_captured r' _ object elapsed').trans (by rw [run]; rfl)

/-- A field that is named like a renamed operator keeps its name. -/
theorem comparison_under_other_name :
    let matched := Host.decide { threshold := 1000, captured := some [] }
      ((Registry.builtin.erase "$gt").insert "$above" Builtin.gt.operator)
      [("$or", .document [("$equal", .document [("$gt", .int32 1)]), ("$above", .int32 5)])]
      [("$gt", .int32 1)] 7
    matched.1 = some (.error (.typeMismatch "$above" .definition "not a document" "5")) ∧
      matched.2.captured = some ["$equal $gt => true", "$or $equal => true"] := by
  have renamed : IsRenaming (Equiv.swap "$gt" "$above") .builtin
      ((Registry.builtin.erase "$gt").insert "$above" Builtin.gt.operator) := by
    refine ⟨Equiv.injective _, rfl, fun name op found => ?_, fun name op => ?_⟩
    · rw [get?_builtin, Option.map_eq_some_iff] at found
      obtain ⟨b, -, hb⟩ := found
      exact ⟨b, hb⟩
    · simp only [Equiv.swap_apply_eq_iff, exists_eq_left]
      rw [Registry.get?_insert, Registry.get?_erase, Equiv.swap_apply_def]
      by_cases hg : name = "$gt"
      · subst hg
        simp [get?_of_no_name (show Builtin.ofName? "$above" = none from rfl)]
      · by_cases ha : name = "$above"
        · subst ha
          simp [get?_of_name (show Builtin.ofName? "$gt" = some .gt from rfl)]
        · simp [hg, ha]
  have matched := match_of_renamed_operators { threshold := 1000, captured := some [] } renamed
    [("$or", .document [("$equal", .document [("$gt", .int32 1)]), ("$gt", .int32 5)])]
    [("$gt", .int32 1)] 2000 7
  exact ⟨matched.2.2.1 _ rfl, matched.2.2.2.2.2⟩

end Criteria
