import Criteria.Proofs.AbsentFields
import Criteria.Proofs.Limits

/-!
# What a match depends on

A registry sorts the keys of a query as evaluation does: below a combinator they are names of
operators, below a predicate they are fields of the object. A match looks nothing else up.
Registries that agree on the names and objects that agree on the fields cannot be told apart by it.
-/

namespace Criteria

/-- The bodies of a query with the operators that they stand under. Only the keys below a combinator
lead to further bodies. -/
inductive Reached (r : Registry) (query : Document) : Operator → Document → Prop where
  | root {op : Operator} (found : r.get? rootOperator = some op) : Reached r query op query
  | inner {outer op : Operator} {clauses inner : Document} {key : String}
      (above : Reached r query outer clauses) (combines : outer.isCombinator = true)
      (clause : (key, .document inner) ∈ clauses) (found : r.get? key = some op) :
      Reached r query op inner

def OperatorKey (r : Registry) (query : Document) (key : String) : Prop :=
  ∃ op clauses, Reached r query op clauses ∧ op.isCombinator = true ∧ key ∈ clauses.keys

def FieldKey (r : Registry) (query : Document) (key : String) : Prop :=
  ∃ op clauses, Reached r query op clauses ∧ op.isCombinator = false ∧ key ∈ clauses.keys

def SameBuiltin (r₁ r₂ : Registry) (name : String) : Prop :=
  ∃ b : Option Builtin,
    r₁.get? name = b.map Builtin.operator ∧ r₂.get? name = b.map Builtin.operator

/-- Registries and objects that answer alike for everything that a query names. Names and fields are
those that the first registry makes of its keys. -/
structure SameNamed (query : Document) (r₁ r₂ : Registry) (o₁ o₂ : Document) : Prop where
  root : SameBuiltin r₁ r₂ rootOperator
  operators : ∀ key, OperatorKey r₁ query key → SameBuiltin r₁ r₂ key
  fields : ∀ field, FieldKey r₁ query field → o₁.get? field = o₂.get? field

theorem Builtin.operator_is_combinator (b : Builtin) :
    b.operator.isCombinator = b.isCombinator := by
  cases b <;> rfl

section Runs

variable {query o₁ o₂ : Document} {r₁ r₂ : Registry} {beyond₁ beyond₂ : Evaluator}

theorem SameBuiltin.of_eq {name : String} (h : SameBuiltin r₁ r₁ name)
    (same : r₂.get? name = r₁.get? name) : SameBuiltin r₁ r₂ name := by
  obtain ⟨b, hb, -⟩ := h
  exact ⟨b, hb, same.trans hb⟩

theorem SameBuiltin.found {name : String} (h : SameBuiltin r₁ r₂ name) {op : Operator}
    (found : r₁.get? name = some op) : ∃ b : Builtin, b.operator = op := by
  obtain ⟨b, hb, -⟩ := h
  rw [found] at hb
  cases b with
  | none => cases hb
  | some b => exact ⟨b, (Option.some.inj hb).symm⟩

theorem SameNamed.left (same : SameNamed query r₁ r₂ o₁ o₂) :
    SameNamed query r₁ r₁ o₁ o₁ where
  root := by
    obtain ⟨b, hb, -⟩ := same.root
    exact ⟨b, hb, hb⟩
  operators key hk := by
    obtain ⟨b, hb, -⟩ := same.operators key hk
    exact ⟨b, hb, hb⟩
  fields _ _ := rfl

theorem SameNamed.of_other_name (own : SameNamed query r₁ r₁ o₁ o₁) {name : String}
    (root : name ≠ rootOperator) (unnamed : ¬ OperatorKey r₁ query name)
    (same : ∀ n, n ≠ name → r₂.get? n = r₁.get? n) : SameNamed query r₁ r₂ o₁ o₁ where
  root := own.root.of_eq (same _ root.symm)
  operators key hk := (own.operators key hk).of_eq (same key fun e => unnamed (e ▸ hk))
  fields := own.fields

theorem SameNamed.reached (same : SameNamed query r₁ r₂ o₁ o₂) {op : Operator}
    {clauses : Document} (h : Reached r₁ query op clauses) : ∃ b : Builtin, b.operator = op := by
  cases h with
  | root found => exact same.root.found found
  | inner above combines clause found =>
    refine (same.operators _ ⟨_, _, above, combines, ?_⟩).found found
    exact List.mem_map_of_mem clause

theorem evaluate_of_same_builtin {key : String} (same : SameBuiltin r₁ r₂ key) (operand : Value)
    (h : ∀ op inner, r₁.get? key = some op → operand = .document inner →
      evaluateClauses r₁ beyond₁ key op inner o₁ = evaluateClauses r₂ beyond₂ key op inner o₂) :
    evaluate r₁ beyond₁ key operand o₁ = evaluate r₂ beyond₂ key operand o₂ := by
  obtain ⟨b, h₁, h₂⟩ := same
  cases b with
  | none => rw [evaluate_unregistered h₁, evaluate_unregistered h₂]
  | some b =>
    rcases operand.document_or with ⟨inner, rfl⟩ | hd
    · rw [evaluate_document h₁, evaluate_document h₂, h _ inner h₁ rfl]
    · rw [evaluate_no_document h₁ beyond₁ hd, evaluate_no_document h₂ beyond₂ hd]

theorem SameNamed.clauses (same : SameNamed query r₁ r₂ o₁ o₂) {op : Operator}
    {clauses : Document} (reached : Reached r₁ query op clauses) (operator : String) :
    evaluateClauses r₁ beyond₁ operator op clauses o₁ =
      evaluateClauses r₂ beyond₂ operator op clauses o₂ := by
  induction clauses using Document.nested_induction generalizing op operator with
  | step clauses ih =>
    -- Only bodies that the registry leads to are named, so `reached` goes down with the induction.
    obtain ⟨self, rfl⟩ := same.reached reached
    refine evaluate_clauses_congr (fun clause hm => ?_) operator
    obtain ⟨key, operand⟩ := clause
    have hk : key ∈ clauses.keys := List.mem_map_of_mem hm
    cases hc : self.isCombinator with
    | false =>
      have hf := same.fields key ⟨_, _, reached, self.operator_is_combinator.trans hc, hk⟩
      exact Builtin.run_clause_of_field operand _ _ hc hf
    | true =>
      have combines : self.operator.isCombinator = true := self.operator_is_combinator.trans hc
      rw [Builtin.combinator_run _ _ hc, Builtin.combinator_run _ _ hc]
      simp only [Registry.inquiry_none]
      congr 1
      refine evaluate_of_same_builtin (same.operators key ⟨_, _, reached, combines, hk⟩) operand ?_
      rintro op inner found rfl
      exact ih key inner hm (reached.inner combines hm found) key

theorem SameNamed.run (same : SameNamed query r₁ r₂ o₁ o₂) (limit : Nat) :
    r₁.run limit query o₁ = r₂.run limit query o₂ := by
  refine evaluate_of_same_builtin same.root (.document query) ?_
  rintro op inner found ⟨⟩
  exact same.clauses (.root found) rootOperator

theorem SameNamed.clauses_end (same : SameNamed query r₁ r₂ o₁ o₂) {op : Operator}
    {clauses : Document} (reached : Reached r₁ query op clauses) (operator : String) :
    (evaluateClauses r₁ beyond₁ operator op clauses o₁).result.isSome = true := by
  induction clauses using Document.nested_induction generalizing op operator with
  | step clauses ih =>
    obtain ⟨self, rfl⟩ := same.reached reached
    refine clauses_end_of (fun clause hm => ?_) operator
    obtain ⟨key, operand⟩ := clause
    cases hc : self.isCombinator with
    | false => rw [Builtin.predicate_result _ _ _ hc, Option.isSome_some]
    | true =>
      have combines : self.operator.isCombinator = true := self.operator_is_combinator.trans hc
      rw [Builtin.combinator_run _ _ hc, Registry.inquiry_none, Run.map, Option.isSome_map]
      apply evaluate_ends_of
      rintro op inner found rfl
      exact ih key inner hm (reached.inner combines hm found) key

theorem SameNamed.run_ends (same : SameNamed query r₁ r₂ o₁ o₂) (limit : Nat) :
    (r₁.run limit query o₁).result.isSome = true := by
  apply evaluate_ends_of
  rintro op inner found ⟨⟩
  exact same.clauses_end (.root found) rootOperator

end Runs

/-- Two matches that differ in nothing but the time they take: they give the same answer or the same
failure, one of which they do give, and the same lines, and raise the same counters, but for the one
that depends on time. -/
def Host.Indistinct (h : Host) (query : Document) (r₁ r₂ : Registry) (o₁ o₂ : Document) : Prop :=
  ∀ elapsed₁ elapsed₂ : UInt64,
    let first := h.decide r₁ query o₁ elapsed₁
    let second := h.decide r₂ query o₂ elapsed₂
    second.1 = first.1 ∧ first.1.isSome = true ∧ second.2.captured = first.2.captured ∧
      ∀ c, c ≠ .slow → second.2.counters.get c = first.2.counters.get c

theorem SameNamed.indistinct {query o₁ o₂ : Document} {r₁ r₂ : Registry}
    (same : SameNamed query r₁ r₂ o₁ o₂) (h : Host) : h.Indistinct query r₁ r₂ o₁ o₂ := by
  intro elapsed₁ elapsed₂ first second
  have run := same.run h.limit
  obtain ⟨outcome, ended⟩ := Option.isSome_iff_exists.mp (same.run_ends h.limit)
  refine ⟨congrArg Run.result run.symm, same.run_ends h.limit, ?_, fun c hc => ?_⟩
  · simp only [first, second, Host.decide_captured, run]
  · simp only [first, second, Host.decide_counters, ← run, ended, Option.elim_some,
      Counters.get_incrementAll, List.count_append]
    rw [match_increments_count_congr _ _ _ hc]

/-- A match depends on nothing but the operators and the fields that its query names. No other name
that is registered, overridden or taken away changes it, and neither does a field that is added,
changed or moved. -/
theorem match_depends_on_named_keys (h : Host) {query o₁ o₂ : Document} {r₁ r₂ : Registry}
    (same : SameNamed query r₁ r₂ o₁ o₂) :
    h.Indistinct query r₁ r₂ o₁ o₂ ∧
      (∀ name, name ≠ rootOperator → ¬ OperatorKey r₁ query name →
        h.Indistinct query r₁ (r₁.erase name) o₁ o₁ ∧
          ∀ op, h.Indistinct query r₁ (r₁.insert name op) o₁ o₁) ∧
      (∀ field, ¬ FieldKey r₁ query field →
        ∀ value, h.Indistinct query r₁ r₁ o₁ (o₁.insert field value)) ∧
      (o₁.DistinctKeys → ∀ o, o.Perm o₁ → h.Indistinct query r₁ r₁ o₁ o) := by
  have own := same.left
  refine ⟨same.indistinct h, fun name hroot hname => ?_, fun field hfield value => ?_,
    fun distinct o moved => ?_⟩
  · refine ⟨(own.of_other_name hroot hname fun n hn => ?_).indistinct h, fun op =>
      (own.of_other_name hroot hname fun n hn => ?_).indistinct h⟩
    · rw [Registry.get?_erase, if_neg hn]
    · rw [Registry.get?_insert, if_neg hn]
  · refine SameNamed.indistinct ⟨own.root, own.operators, fun key hk => ?_⟩ h
    have hne : key ≠ field := fun e => hfield (e ▸ hk)
    rw [Document.get?_insert, if_neg hne]
  · refine SameNamed.indistinct ⟨own.root, own.operators, fun key _ => ?_⟩ h
    exact (distinct.get?_of_perm moved key).symm

/-- The name of an operator that is not there may well be the name of a field. -/
theorem field_with_erased_name :
    (Host.decide { threshold := 1000 } (Registry.builtin.erase "$lt")
        [("$gt", .document [("$lt", .int32 1)])] [("kind", .string "box"), ("$lt", .int32 2)] 7).1 =
      some (.ok true) := by
  have reached : ∀ op clauses,
      Reached .builtin [("$gt", .document [("$lt", .int32 1)])] op clauses →
        op = Builtin.and.operator ∧ clauses = [("$gt", .document [("$lt", .int32 1)])] ∨
          op = Builtin.gt.operator ∧ clauses = [("$lt", .int32 1)] := by
    intro op clauses h
    induction h with
    | root found => exact .inl ⟨(Option.some.inj (get?_root.symm.trans found)).symm, rfl⟩
    | inner above combines clause found ih =>
      rcases ih with ⟨rfl, rfl⟩ | ⟨rfl, -⟩
      · obtain ⟨rfl, hi⟩ : _ = "$gt" ∧ _ = [("$lt", Value.int32 1)] := by simpa using clause
        exact .inr ⟨(Option.some.inj ((get?_of_name rfl).symm.trans found)).symm, hi⟩
      · cases combines
  have same : SameNamed [("$gt", .document [("$lt", .int32 1)])] .builtin
      (Registry.builtin.erase "$lt") [("$lt", .int32 2)]
      [("kind", .string "box"), ("$lt", .int32 2)] := by
    refine ⟨⟨some .and, rfl, rfl⟩, ?_, ?_⟩
    · rintro key ⟨op, clauses, h, hc, hk⟩
      rcases reached op clauses h with ⟨-, rfl⟩ | ⟨rfl, -⟩
      · obtain rfl : key = "$gt" := by simpa [Document.keys] using hk
        exact ⟨some .gt, rfl, rfl⟩
      · cases hc
    · rintro key ⟨op, clauses, h, hc, hk⟩
      rcases reached op clauses h with ⟨rfl, -⟩ | ⟨-, rfl⟩
      · cases hc
      · obtain rfl : key = "$lt" := by simpa [Document.keys] using hk
        rfl
  exact ((match_depends_on_named_keys { threshold := 1000 } same).1 5 7).1

end Criteria
