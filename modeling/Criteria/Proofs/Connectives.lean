import Criteria.Host
import Criteria.Operator.Library
import Criteria.Proofs.Limits
import Criteria.Proofs.TwoPhase

/-!
# Laws of the connectives

A body of `$and`, `$or` or `$not` is evaluated in two steps. Its clauses come to truth values in
order, or to the first failure, and that step is the same under all three. Then the operator makes
one truth value of them. So a law of truth values is a law of queries, failures included, whatever
else is registered; and where a law needs some truth value to be there, as the law of De Morgan
does, it needs a body that is not empty.
-/

namespace Criteria

namespace Builtin

theorem combine_one (self : Builtin) (truth : Bool) :
    self.combineTruths [truth] = self.adjust truth := by
  cases self <;> simp [combineTruths, adjust]

theorem combine_or_eq_not {truths : List Bool} (hne : truths ≠ []) :
    or.combineTruths truths = !not.combineTruths truths := by
  have full : truths.isEmpty = false := List.isEmpty_eq_false_iff.mpr hne
  simp [combineTruths, full, List.not_all_eq_any_not, Function.id_def]

end Builtin

def nest (keys : List String) (body : Document) : Document :=
  match keys with
  | [] => body
  | key :: rest => [(key, .document (nest rest body))]

namespace Registry

/-- The built-in connectives are registered under their own names. What else is there, predicates or
combinators, is left open. -/
def HasConnectives (r : Registry) : Prop :=
  ∀ b : Builtin, b.isCombinator = true → r.get? b.name = some b.operator

/-- What the clauses of a body come to when their keys name operators: truth values in order, or the
first failure, or nothing if a clause is given up before. -/
def outcomes (r : Registry) (beyond : Evaluator) (clauses object : Document) :
    Option (Except Failure (List Bool)) :=
  match clauses with
  | [] => some (.ok [])
  | (key, operand) :: rest =>
    (evaluate r beyond key operand object).result.bind fun
      | .ok outcome => (outcomes r beyond rest object).map (Except.map (outcome :: ·))
      | .error failure => some (.error failure)

section Bodies

variable {r : Registry} {beyond : Evaluator} (object : Document)

theorem outcomes_map_congr {clauses : Document} (hne : clauses ≠ []) {f g : List Bool → Bool}
    (same : ∀ truths, truths ≠ [] → f truths = g truths) :
    (r.outcomes beyond clauses object).map (Except.map f) =
      (r.outcomes beyond clauses object).map (Except.map g) := by
  cases clauses with
  | nil => exact absurd rfl hne
  | cons clause rest =>
    rw [outcomes]
    rcases (evaluate r beyond clause.1 clause.2 object).result with _ | failure | outcome
    · rfl
    · rfl
    · rcases r.outcomes beyond rest object with _ | failure | truths
      · rfl
      · rfl
      · exact congrArg (some ∘ Except.ok) (same _ (List.cons_ne_nil outcome truths))

theorem evaluate_clauses_result {self : Builtin} (hc : self.isCombinator = true)
    (operator : String) (clauses : Document) :
    (evaluateClauses r beyond operator self.operator clauses object).result =
      (r.outcomes beyond clauses object).map (Except.map (List.map self.adjust)) := by
  induction clauses with
  | nil =>
    rw [evaluateClauses_nil]
    rfl
  | cons clause rest ih =>
    rw [evaluateClauses_cons, Builtin.combinator_run _ _ hc, Registry.inquiry_none, outcomes]
    rcases result : (evaluate r beyond clause.1 clause.2 object).result with _ | failure | outcome
    · simp [Run.andThen, Run.followedBy, Run.map, result]
    · simp [Run.andThen, Run.followedBy, Run.map, Run.ofFailure, result, Except.map]
    · simp only [Run.andThen, Run.followedBy, Run.map, result, Option.map_some, Except.map, ih]
      rcases r.outcomes beyond rest object with _ | _ | _ <;> rfl

/-- The whole body comes to one combination of the outcomes of its clauses. -/
theorem evaluate_connective (hr : r.HasConnectives) (self : Builtin)
    (hc : self.isCombinator = true) (clauses : Document) :
    (evaluate r beyond self.name (.document clauses) object).result =
      (r.outcomes beyond clauses object).map (Except.map self.combineTruths) := by
  rw [evaluate_document (hr self hc)]
  simp only [Run.map, evaluate_clauses_result object hc]
  rcases r.outcomes beyond clauses object with _ | failure | truths
  · rfl
  · rfl
  · -- The fold of adjusted truth values is the combination of the truth values themselves.
    exact congrArg (some ∘ Except.ok) (self.combine_adjusted truths)

theorem evaluate_one_clause (hr : r.HasConnectives) (self : Builtin)
    (hc : self.isCombinator = true) (key : String) (operand : Value) :
    (evaluate r beyond self.name (.document [(key, operand)]) object).result =
      (evaluate r beyond key operand object).result.map (Except.map self.adjust) := by
  rw [evaluate_connective object hr self hc, outcomes]
  rcases (evaluate r beyond key operand object).result with _ | failure | outcome
  · rfl
  · rfl
  · exact congrArg (some ∘ Except.ok) (self.combine_one outcome)

theorem evaluate_below (hr : r.HasConnectives) (self b : Builtin)
    (hs : self.isCombinator = true) (hb : b.isCombinator = true) (clauses : Document) :
    (evaluate r beyond self.name (.document [(b.name, .document clauses)]) object).result =
      (r.outcomes beyond clauses object).map
        (Except.map fun truths => self.adjust (b.combineTruths truths)) := by
  rw [evaluate_one_clause object hr self hs, evaluate_connective object hr b hb]
  rcases r.outcomes beyond clauses object with _ | _ | _ <;> rfl

theorem evaluate_through (hr : r.HasConnectives) {operator : String}
    (ho : operator = "$and" ∨ operator = "$or") (key : String) (operand : Value) :
    (evaluate r beyond operator (.document [(key, operand)]) object).result =
      (evaluate r beyond key operand object).result := by
  have unchanged (result : Option Outcome) : result.map (Except.map id) = result := by
    rcases result with _ | _ | _ <;> rfl
  rcases ho with rfl | rfl
  · exact (evaluate_one_clause object hr .and rfl key operand).trans (unchanged _)
  · exact (evaluate_one_clause object hr .or rfl key operand).trans (unchanged _)

theorem evaluate_nest (hr : r.HasConnectives) {keys : List String}
    (hk : ∀ key ∈ keys, key = "$and" ∨ key = "$or") {operator : String}
    (ho : operator = "$and" ∨ operator = "$or") (body : Document) :
    (evaluate r beyond operator (.document (nest keys [("$and", .document body)])) object).result =
      (evaluate r beyond "$and" (.document body) object).result := by
  -- A key is the operator of what is nested below it, so `operator` varies with the keys.
  induction keys generalizing operator with
  | nil => exact evaluate_through object hr ho "$and" _
  | cons key rest ih =>
    obtain ⟨hkey, hrest⟩ := List.forall_mem_cons.mp hk
    let inner : Value := .document (nest rest [("$and", .document body)])
    calc (evaluate r beyond operator (.document [(key, inner)]) object).result
        = (evaluate r beyond key inner object).result := evaluate_through object hr ho key inner
      _ = (evaluate r beyond "$and" (.document body) object).result := ih hrest hkey

end Bodies

end Registry

/-- Laws of the built-in connectives among any other operators, for truth values and failures alike.
A query is a body of `$and`. Any `$and` and `$or` around a body of `$and` change nothing, and
neither does either of them to a single clause, which `$not` negates. Below `$not`, a body of `$not`
comes to what it does under `$or`, and a body of `$or` to what it does under `$not`, if there is a
clause in it. The empty body holds under all three, so below `$not` it does not hold. Among
predicates every body comes to an outcome. -/
theorem connective_laws {r : Registry} (hr : r.HasConnectives) (limit : Nat)
    (body object : Document) :
    let outcome (operator : String) (clauses : Document) : Option Outcome :=
      (r.runBody limit operator (.document clauses) object).result
    (∀ (h : Host) (elapsed : UInt64), h.limit = limit →
        (h.decide r body object elapsed).1 = outcome "$and" body) ∧
      (∀ keys : List String, (∀ key ∈ keys, key = "$and" ∨ key = "$or") →
        outcome "$and" (nest keys [("$and", .document body)]) = outcome "$and" body) ∧
      (body ≠ [] →
        outcome "$not" [("$not", .document body)] = outcome "$or" body ∧
          outcome "$not" [("$or", .document body)] = outcome "$not" body) ∧
      (body = [] →
        outcome "$and" body = some (.ok true) ∧ outcome "$or" body = some (.ok true) ∧
          outcome "$not" body = some (.ok true) ∧
          outcome "$not" [("$not", .document body)] = some (.ok false) ∧
          outcome "$not" [("$or", .document body)] = some (.ok false)) ∧
      (∀ key operand,
        let own : Option Outcome := (r.runBody limit key operand object).result
        outcome "$and" [(key, operand)] = own ∧ outcome "$or" [(key, operand)] = own ∧
          outcome "$not" [(key, operand)] = own.map (Except.map Bool.not)) ∧
      ((∀ name op, r.get? name = some op → op.isCombinator = true →
          ∃ b : Builtin, b.operator = op) →
        ∀ operator clauses, (outcome operator clauses).isSome = true) := by
  intro outcome
  have whole (b : Builtin) (hb : b.isCombinator = true) : outcome b.name body =
      (r.outcomes (r.beyond limit) body object).map (Except.map b.combineTruths) :=
    Registry.evaluate_connective object hr b hb body
  have below (b : Builtin) (hb : b.isCombinator = true) :
      outcome "$not" [(b.name, .document body)] = (r.outcomes (r.beyond limit) body object).map
        (Except.map fun truths => !b.combineTruths truths) :=
    Registry.evaluate_below object hr .not b rfl hb body
  refine ⟨?_, fun keys hk => ?_, fun hne => ⟨?_, ?_⟩, ?_, fun key operand => ?_,
    fun predicates operator clauses => ?_⟩
  · rintro h elapsed rfl
    rfl
  · exact Registry.evaluate_nest object hr hk (.inl rfl) body
  · calc outcome "$not" [("$not", .document body)]
        = (r.outcomes (r.beyond limit) body object).map
            (Except.map fun truths => !Builtin.not.combineTruths truths) := below .not rfl
      _ = (r.outcomes (r.beyond limit) body object).map (Except.map Builtin.or.combineTruths) := by
          apply Registry.outcomes_map_congr object hne
          intro truths full
          exact (Builtin.combine_or_eq_not full).symm
      _ = outcome "$or" body := (whole .or rfl).symm
  · calc outcome "$not" [("$or", .document body)]
        = (r.outcomes (r.beyond limit) body object).map
            (Except.map fun truths => !Builtin.or.combineTruths truths) := below .or rfl
      _ = (r.outcomes (r.beyond limit) body object).map (Except.map Builtin.not.combineTruths) := by
          apply Registry.outcomes_map_congr object hne
          intro truths full
          rw [Builtin.combine_or_eq_not full, Bool.not_not]
      _ = outcome "$not" body := (whole .not rfl).symm
  · rintro rfl
    exact ⟨whole .and rfl, whole .or rfl, whole .not rfl, below .not rfl, below .or rfl⟩
  · exact ⟨Registry.evaluate_through object hr (.inl rfl) key operand,
      Registry.evaluate_through object hr (.inr rfl) key operand,
      Registry.evaluate_one_clause object hr .not rfl key operand⟩
  · refine r.run_body_ends (fun name op found => ?_) limit operator (.document clauses) object
    cases op with
    | predicate test => trivial
    | combinator fold plan =>
      obtain ⟨b, hb⟩ := predicates name _ found rfl
      exact hb ▸ b.keeps_to_operand

/-- A failure below two negations, two negations of nothing, and connectives around nothing. -/
theorem negations_beside_sealed_field :
    let r := Registry.builtin.insert "$sealed" (.refusal "sealed")
    let body : Document := [("$equal", .document [("a", .int32 1)]),
      ("$sealed", .document [("b", .null)]), ("$size", .document [])]
    let object : Document := [("a", .int32 1)]
    let outcome (operator : String) (clauses : Document) : Option Outcome :=
      (r.runBody 0 operator (.document clauses) object).result
    r.HasConnectives ∧ body ≠ [] ∧
      outcome "$not" [("$not", .document body)] =
        some (.error (.typeMismatch "$fail" .object "sealed" "undefined")) ∧
      outcome "$not" [("$not", .document [])] = some (.ok false) ∧
      outcome "$and" (nest ["$or", "$and"] [("$and", .document [])]) = some (.ok true) := by
  intro r body object outcome
  have connectives : r.HasConnectives := by
    intro b hb
    have other : b.name ≠ "$sealed" := by cases b <;> decide
    rw [Registry.get?_insert, if_neg other]
    exact get?_of_name (Builtin.ofName?_name b)
  obtain ⟨-, -, negated, -, -⟩ := connective_laws connectives 0 body object
  obtain ⟨-, nested, -, empty, -⟩ := connective_laws connectives 0 [] object
  have hne : body ≠ [] := List.cons_ne_nil _ _
  refine ⟨connectives, hne, (negated hne).1.trans rfl, (empty rfl).2.2.2.1, ?_⟩
  exact (nested ["$or", "$and"] (by decide)).trans (empty rfl).1

end Criteria
