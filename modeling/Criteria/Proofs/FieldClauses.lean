import Criteria.Evaluation
import Mathlib.Data.List.Infix

/-!
# Clauses of the built-in operators

What is wrong with one clause of a predicate, and whether it holds, are two questions with answers
of their own; the operator answers the first one if it can and else the second one. A combinator
hands its operand on under the key of the clause and at most negates what comes back.
-/

namespace Criteria

namespace Builtin

theorem ofName?_name (b : Builtin) : ofName? b.name = some b := by cases b <;> rfl

theorem ofName?_eq_some_iff {name : String} {b : Builtin} :
    ofName? name = some b ↔ b.name = name := by
  constructor
  · intro h
    simpa using List.find?_some h
  · rintro rfl
    exact ofName?_name b

def isCombinator : Builtin → Bool
  | and | or | not => true
  | _ => false

/-- How a clause turns the truth value of its operand into its own. -/
def adjust : Builtin → Bool → Bool
  | not, truth => !truth
  | _, truth => truth

theorem adjust_predicate {self : Builtin} (h : self.isCombinator = false) (truth : Bool) :
    self.adjust truth = truth := by
  cases self with
  | not => cases h
  | _ => rfl

end Builtin

theorem get?_builtin (name : String) :
    Registry.builtin.get? name = (Builtin.ofName? name).map Builtin.operator := by
  cases h : Builtin.ofName? name with
  | some b =>
    obtain rfl := Builtin.ofName?_eq_some_iff.mp h
    cases b <;> rfl
  | none =>
    have hne (b : Builtin) : name ≠ b.name := by
      rintro rfl
      simp [Builtin.ofName?_name] at h
    simp [Registry.builtin, Builtin.all, Registry.get?_insert, hne]

theorem get?_of_name {key : String} {b : Builtin} (h : Builtin.ofName? key = some b) :
    Registry.builtin.get? key = some b.operator := by
  rw [get?_builtin, h, Option.map_some]

theorem get?_of_no_name {key : String} (h : Builtin.ofName? key = none) :
    Registry.builtin.get? key = none := by
  rw [get?_builtin, h, Option.map_none]

theorem get?_root : Registry.builtin.get? rootOperator = some Builtin.and.operator :=
  get?_of_name (Builtin.ofName?_name .and)

theorem Value.document_or (body : Value) :
    (∃ clauses, body = .document clauses) ∨ ∀ clauses, body ≠ .document clauses := by
  by_cases h : ∃ clauses, body = .document clauses
  · exact .inl h
  · exact .inr (not_exists.mp h)

theorem evaluate_no_document {r : Registry} {operator : String} {op : Operator}
    (h : r.get? operator = some op) (beyond : Evaluator) {body : Value}
    (hb : ∀ clauses, body ≠ .document clauses) (object : Document) :
    evaluate r beyond operator body object =
      .ofFailure (.ofValue operator .definition "not a document" body) := by
  unfold evaluate
  rw [h]
  cases body with
  | document clauses => exact absurd rfl (hb clauses)
  | _ => rfl

theorem evaluate_clauses_congr {r₁ r₂ : Registry} {beyond₁ beyond₂ : Evaluator} {op : Operator}
    {o₁ o₂ : Document} {clauses : List (String × Value)}
    (h : ∀ clause ∈ clauses,
      op.runClause clause.1 clause.2 o₁ (r₁.inquiry beyond₁ clause.2) =
        op.runClause clause.1 clause.2 o₂ (r₂.inquiry beyond₂ clause.2))
    (operator : String) : evaluateClauses r₁ beyond₁ operator op clauses o₁ =
      evaluateClauses r₂ beyond₂ operator op clauses o₂ := by
  induction clauses with
  | nil => rw [evaluateClauses_nil, evaluateClauses_nil]
  | cons clause rest ih =>
    obtain ⟨hc, hr⟩ := List.forall_mem_cons.mp h
    rw [evaluateClauses_cons, evaluateClauses_cons, hc, ih hr]

/-- The first failure, or a value when nothing failed. -/
def settle {α : Type} (failures : List Failure) (value : α) : Except Failure α :=
  match failures with
  | [] => .ok value
  | first :: _ => .error first

section Settle

variable {α β : Type}

@[simp] theorem settle_nil (value : α) : settle [] value = .ok value := rfl

@[simp] theorem settle_cons (first : Failure) (rest : List Failure) (value : α) :
    settle (first :: rest) value = .error first := rfl

theorem settle_map (failures : List Failure) (value : α) (f : α → β) :
    (settle failures value).map f = settle failures (f value) := by
  cases failures <;> rfl

theorem settle_eq_ok_iff {failures : List Failure} {value final : α} :
    settle failures value = .ok final ↔ failures = [] ∧ value = final := by
  cases failures <;> simp

theorem settle_eq_error_iff {failures : List Failure} {value : α} {failure : Failure} :
    settle failures value = .error failure ↔ failures.head? = some failure := by
  cases failures <;> simp

theorem settle_fails_iff {failures : List Failure} {value : α} :
    (∃ failure, settle failures value = .error failure) ↔ failures ≠ [] := by
  cases failures <;> simp

theorem and_then_settle {r : Run α} {next : α → Run β} {first second : List Failure} {value : α}
    {final : β} (hr : r.result = some (settle first value))
    (hn : (next value).result = some (settle second final)) :
    (r.andThen next).result = some (settle (first ++ second) final) := by
  cases first with
  | nil => simpa [Run.andThen, Run.followedBy, hr] using hn
  | cons f rest => simp [Run.andThen, Run.followedBy, Run.ofFailure, hr]

end Settle

namespace Builtin

def holdsText : Option Value → Bool
  | some (.string _) => true
  | _ => false

def holdsList : Option Value → Bool
  | some (.array _) => true
  | _ => false

def fieldFailure? (self : Builtin) (field : String) (operand : Value) (object : Document) :
    Option Failure :=
  let actual := object.get? field
  let onObject := fun reason => some (Failure.ofValue self.name .object reason actual)
  let onDefinition := fun reason => some (Failure.ofValue self.name .definition reason operand)
  match self with
  | contain =>
    if holdsText actual || holdsList actual then none else onObject "not a string or array"
  | pattern =>
    if holdsText actual then
      match operand with
      | .regex source options =>
        if (Pattern.compile? source options).isSome then none else onDefinition "not a valid regex"
      | _ => onDefinition "not a regex"
    else onObject "not a string"
  | gt | lt =>
    if actual.any Value.isNumber then
      if operand.isNumber then none else onDefinition "not a number"
    else onObject "not a number"
  | _ => none

/-- The truth value of one clause of a predicate, with `false` where there is none. -/
def fieldHolds (self : Builtin) (field : String) (operand : Value) (object : Document) : Bool :=
  match self, object.get? field, operand with
  | equal, actual, expected => fieldEqual actual expected
  | contain, some (.string text), .string needle => decide (needle.toList <:+: text.toList)
  | contain, some (.array items), item => items.any fun x => x.deepEqual item
  | pattern, some (.string text), .regex source options =>
    (Pattern.compile? source options).any fun p => p.isMatch text
  | gt, some actual, threshold => actual.compare? threshold == some .gt
  | lt, some actual, threshold => actual.compare? threshold == some .lt
  | _, _, _ => false

theorem is_inside_iff_infix (needle text : List Char) :
    isInside needle text = true ↔ needle <:+: text := by
  induction text with
  | nil => simp [isInside]
  | cons c rest ih => simp [isInside, ih, List.infix_cons_iff]

theorem is_inside_eq_decide (needle text : List Char) :
    isInside needle text = decide (needle <:+: text) := by
  rw [Bool.eq_iff_iff, is_inside_iff_infix, decide_eq_true_iff]

section Clause

variable (field : String) (operand : Value) (object : Document)

theorem contain_result : (testContain field operand object).outcome =
    settle (contain.fieldFailure? field operand object).toList
      (contain.fieldHolds field operand object) := by
  unfold testContain fieldFailure? fieldHolds
  generalize object.get? field = actual
  cases actual with
  | none => rfl
  | some v =>
    cases v with
    | string text =>
      cases operand with
      | string needle => simp [holdsText, is_inside_eq_decide]
      | _ => rfl
    | array items => simp [holdsText, holdsList]
    | _ => rfl

theorem pattern_result : (testPattern field operand object).outcome =
    settle (pattern.fieldFailure? field operand object).toList
      (pattern.fieldHolds field operand object) := by
  unfold testPattern fieldFailure? fieldHolds
  generalize object.get? field = actual
  cases actual with
  | none => rfl
  | some v =>
    cases v with
    | string text =>
      cases operand with
      | regex source options =>
        cases h : Pattern.compile? source options with
        | none => simp [holdsText, h, mismatch]
        | some p => simp [holdsText, h]
      | _ => rfl
    | _ => rfl

theorem order_result {self : Builtin} {order : Ordering}
    (h : self = gt ∧ order = .gt ∨ self = lt ∧ order = .lt) :
    (testOrder self order field operand object).outcome =
      settle (self.fieldFailure? field operand object).toList
        (self.fieldHolds field operand object) := by
  unfold testOrder fieldFailure? fieldHolds
  generalize object.get? field = actual
  rcases h with ⟨rfl, rfl⟩ | ⟨rfl, rfl⟩
  all_goals
    cases actual with
    | none => rfl
    | some v =>
      by_cases hv : v.isNumber
      · by_cases ho : operand.isNumber <;> simp [Option.filter, hv, ho, mismatch]
      · simp [Option.filter, hv, mismatch]

theorem predicate_result {self : Builtin} (h : self.isCombinator = false) (inquire : Inquiry) :
    (self.operator.runClause field operand object inquire).result =
      some (settle (self.fieldFailure? field operand object).toList
        (self.fieldHolds field operand object)) := by
  cases self with
  | and | or | not => cases h
  | equal => rfl
  | contain => exact congrArg some (contain_result field operand object)
  | pattern => exact congrArg some (pattern_result field operand object)
  | gt => exact congrArg some (order_result field operand object (.inl ⟨rfl, rfl⟩))
  | lt => exact congrArg some (order_result field operand object (.inr ⟨rfl, rfl⟩))

/-- A combinator asks once, for its operand under its key. -/
theorem combinator_run {self : Builtin} (h : self.isCombinator = true) (key : String)
    (inquire : Inquiry) : self.operator.runClause key operand object inquire =
      (inquire key none object).map self.adjust := by
  have asked (f : Bool → Bool) :
      (inquire key none object).followedBy (fun outcome => ⟨some (outcome.map f), []⟩) =
        (inquire key none object).map f := by
    cases hr : (inquire key none object).result <;> simp [Run.followedBy, Run.map, hr]
  cases self with
  | and | or =>
    have passed := asked id
    simp only [Except.map_id, id] at passed
    exact passed
  | not => exact asked Bool.not
  | _ => cases h

end Clause

end Builtin

end Criteria
