import Criteria.Proofs.DocumentLookup
import Criteria.Proofs.HostEffects
import Criteria.Proofs.TwoPhase

/-!
# Fields that hold the mark of absence

A field with the value `undefined` can be left out of an object. No predicate tells it from a field
that is missing, and what the predicates cannot tell apart no query can.
-/

namespace Criteria

def Value.isPresent : Value → Bool
  | undefined => false
  | _ => true

namespace Document

def dropAbsent (d : Document) : Document := d.filter fun field => field.2.isPresent

theorem drop_absent_cons (key : String) (v : Value) (rest : Document) :
    dropAbsent ((key, v) :: rest) =
      if v.isPresent then (key, v) :: rest.dropAbsent else rest.dropAbsent :=
  List.filter_cons

theorem DistinctKeys.get?_drop_absent {d : Document} (h : d.DistinctKeys) (key : String) :
    d.dropAbsent.get? key = (d.get? key).filter Value.isPresent := by
  induction d with
  | nil => rfl
  | cons field rest ih =>
    obtain ⟨k, v⟩ := field
    obtain ⟨hk, hrest⟩ := List.nodup_cons.mp h
    have ih := ih hrest
    rw [drop_absent_cons, get?_cons]
    by_cases hkey : key = k
    · subst hkey
      have absent : get? rest key = none := get?_eq_none_iff.mpr hk
      rw [absent] at ih
      cases hv : v.isPresent <;> simp [get?_cons, Option.filter_some, hv, ih]
    · split <;> simp [get?_cons, hkey, ih]

end Document

namespace Builtin

section Predicates

variable {self : Builtin} {key : String} {o₁ o₂ : Document} (operand : Value)
  (ev₁ ev₂ : Inquiry)

theorem run_clause_of_field (hc : self.isCombinator = false) (h : o₁.get? key = o₂.get? key) :
    self.operator.runClause key operand o₁ ev₁ = self.operator.runClause key operand o₂ ev₂ := by
  cases self with
  | and | or | not => cases hc
  | equal => simp only [operator, Operator.runClause, testEqual, h]
  | contain => simp only [operator, Operator.runClause, testContain, h]
  | pattern => simp only [operator, Operator.runClause, testPattern, h]
  | gt | lt => simp only [operator, Operator.runClause, testOrder, h]

theorem field_equal_of_undefined (expected : Value) :
    fieldEqual (some .undefined) expected = fieldEqual none expected := by
  cases expected <;> rfl

/-- No predicate tells the mark of absence from absence, not even in a failure. -/
theorem run_clause_of_absent (hc : self.isCombinator = false)
    (h₁ : o₁.get? key = some .undefined) (h₂ : o₂.get? key = none) :
    self.operator.runClause key operand o₁ ev₁ = self.operator.runClause key operand o₂ ev₂ := by
  cases self with
  | and | or | not => cases hc
  | equal =>
    simp only [operator, Operator.runClause, testEqual, h₁, h₂, field_equal_of_undefined]
  | contain =>
    simp only [operator, Operator.runClause, testContain, h₁, h₂]
    rfl
  | pattern =>
    simp only [operator, Operator.runClause, testPattern, h₁, h₂]
    rfl
  | gt | lt =>
    simp only [operator, Operator.runClause, testOrder, h₁, h₂]
    rfl

theorem run_clause_of_filtered (hc : self.isCombinator = false)
    (h : o₂.get? key = (o₁.get? key).filter Value.isPresent) :
    self.operator.runClause key operand o₁ ev₁ = self.operator.runClause key operand o₂ ev₂ := by
  by_cases hu : o₁.get? key = some .undefined
  · rw [hu] at h
    exact run_clause_of_absent operand ev₁ ev₂ hc hu h
  · have present : (o₁.get? key).filter Value.isPresent = o₁.get? key := by
      cases hv : o₁.get? key with
      | none => rfl
      | some v =>
        cases v with
        | undefined => exact absurd hv hu
        | _ => rfl
    rw [present] at h
    exact run_clause_of_field operand ev₁ ev₂ hc h.symm

end Predicates

section Queries

variable {o₁ o₂ : Document} {beyond : Evaluator}

theorem clause_runs_congr {self : Builtin} {clauses : List (String × Value)}
    (h : ∀ clause ∈ clauses,
      self.clauseRun beyond clause.1 clause.2 o₁ = self.clauseRun beyond clause.1 clause.2 o₂)
    (operator : String) : evaluateClauses .builtin beyond operator self.operator clauses o₁ =
      evaluateClauses .builtin beyond operator self.operator clauses o₂ :=
  evaluate_clauses_congr h operator

theorem clause_run_congr (beyond : Evaluator)
    (h : ∀ self : Builtin, self.isCombinator = false → ∀ key operand ev₁ ev₂,
      self.operator.runClause key operand o₁ ev₁ = self.operator.runClause key operand o₂ ev₂)
    (self : Builtin) (key : String) (operand : Value) :
    self.clauseRun beyond key operand o₁ = self.clauseRun beyond key operand o₂ := by
  induction self, key, operand using clause_induction with
  | predicate self key operand hc => exact h self hc key operand _ _
  | unknown self key operand hc hk =>
    rw [clause_run_of_unknown hc hk, clause_run_of_unknown hc hk]
  | scalar self key operand b hc hk ho =>
    rw [clause_run_of_scalar hc hk ho, clause_run_of_scalar hc hk ho]
  | body self key b clauses hc hk ih =>
    rw [clause_run_of_body hc hk, clause_run_of_body hc hk, clause_runs_congr ih]

end Queries

end Builtin

theorem run_drop_absent (limit : Nat) (query : Document) {object : Document}
    (ho : object.DistinctKeys) : Registry.builtin.run limit query object.dropAbsent =
      Registry.builtin.run limit query object := by
  have clauses : ∀ clause ∈ query, _ := fun clause _ =>
    Builtin.clause_run_congr (Registry.builtin.beyond limit) (fun self hc key operand ev₁ ev₂ =>
      Builtin.run_clause_of_filtered operand ev₁ ev₂ hc (ho.get?_drop_absent key))
      .and clause.1 clause.2
  rw [run_of_query, run_of_query, Builtin.clause_runs_congr clauses]

/-- A match cannot tell an object from the same object without its fields marked as not there: it
gives the same answer or the same failure, one of which it does give, the same lines, and raises the
same counters, but for the one that depends on time. -/
theorem match_ignores_absent_fields (h : Host) (query : Document) {object : Document}
    (ho : object.DistinctKeys) (elapsed elapsed' : UInt64) :
    let given := h.decide .builtin query object elapsed
    let dropped := h.decide .builtin query object.dropAbsent elapsed'
    given.1.isSome = true ∧ dropped.1 = given.1 ∧ dropped.2.captured = given.2.captured ∧
      ∀ c, c ≠ .slow → dropped.2.counters.get c = given.2.counters.get c := by
  intro given dropped
  have same := run_drop_absent h.limit query ho
  have ended : given.1.isSome = true := by
    simp only [given, Host.decide, run_result, Option.isSome_some]
  refine ⟨ended, congrArg Run.result same, ?_, fun c hc => ?_⟩
  · simp only [given, dropped, Host.decide_captured, same]
  · simp only [given, dropped, Host.decide_counters, same, run_result, Option.elim_some,
      Counters.get_incrementAll, List.count_append]
    rw [match_increments_count_congr _ _ _ hc]

theorem marked_size_is_missing :
    (Host.decide { threshold := 1000 } .builtin [("$gt", .document [("size", .int32 1)])]
        [("kind", .string "box")] 7).1 =
      some (.error (.typeMismatch "$gt" .object "not a number" "undefined")) := by
  have distinct : Document.DistinctKeys [("size", .undefined), ("kind", .string "box")] := by
    simp [Document.DistinctKeys, Document.keys]
  exact (match_ignores_absent_fields { threshold := 1000 }
    [("$gt", .document [("size", .int32 1)])] distinct 2000 7).2.1

end Criteria
