import Criteria.Proofs.HostEffects
import Criteria.Proofs.TwoPhase

/-!
# The trace of a match

With the built-in operators every clause of a query has a place, an outcome, and perhaps a failure
at it or below it. The clauses are listed here in the order in which they end: those below a clause
come right before it. A trace is this list up to the first clause that fails, and all of it if none
does.
-/

namespace Criteria

/-- A clause of a query, where it stands and what comes out of it. -/
structure Visit where
  path : List Nat
  operator : Builtin
  key : String
  outcome : Bool
  failure? : Option Failure

namespace Visit

def line (v : Visit) : String := clauseLine v.operator.name v.key v.outcome

def isCompleted (v : Visit) : Bool := v.failure?.isNone

/-- The second clause is the first one, or below it. -/
def Encloses (u v : Visit) : Prop := u.path <+: v.path

end Visit

namespace Builtin

mutual

def operandOutcome (key : String) (operand : Value) (object : Document) : Bool :=
  match ofName? key with
  | none => false
  | some b =>
    match operand with
    | .document clauses => b.operator.fold.combine (outcomes b clauses object)
    | _ => false
termination_by structural operand

def outcomes (self : Builtin) (clauses : List (String × Value)) (object : Document) : List Bool :=
  match clauses with
  | [] => []
  | (key, operand) :: rest =>
    (if self.isCombinator then self.adjust (operandOutcome key operand object)
      else self.fieldHolds key operand object) :: outcomes self rest object
termination_by structural clauses

end

def clauseOutcome (self : Builtin) (key : String) (operand : Value) (object : Document) : Bool :=
  if self.isCombinator then self.adjust (operandOutcome key operand object)
  else self.fieldHolds key operand object

def ownVisit (self : Builtin) (path : List Nat) (key : String) (operand : Value)
    (object : Document) : Visit where
  path := path
  operator := self
  key := key
  outcome := self.clauseOutcome key operand object
  failure? := (self.clauseFailures key operand object).head?

mutual

def operandVisits (path : List Nat) (key : String) (operand : Value) (object : Document) :
    List Visit :=
  match ofName? key with
  | none => []
  | some b =>
    match operand with
    | .document clauses => visits b path 0 clauses object
    | _ => []
termination_by structural operand

def visits (self : Builtin) (path : List Nat) (index : Nat) (clauses : List (String × Value))
    (object : Document) : List Visit :=
  match clauses with
  | [] => []
  | (key, operand) :: rest =>
    (if self.isCombinator then operandVisits (path ++ [index]) key operand object else []) ++
      self.ownVisit (path ++ [index]) key operand object ::
      visits self path (index + 1) rest object
termination_by structural clauses

end

def innerVisits (self : Builtin) (path : List Nat) (key : String) (operand : Value)
    (object : Document) : List Visit :=
  if self.isCombinator then operandVisits path key operand object else []

def clauseVisits (self : Builtin) (path : List Nat) (key : String) (operand : Value)
    (object : Document) : List Visit :=
  self.innerVisits path key operand object ++ [self.ownVisit path key operand object]

def queryVisits (query object : Document) : List Visit := visits .and [] 0 query object

section Equations

attribute [local simp] operandOutcome outcomes operandVisits visits

variable {self b : Builtin} {key : String} {operand : Value} {object : Document}

theorem outcomes_eq_map (self : Builtin) (clauses object : Document) :
    self.outcomes clauses object =
      clauses.map fun clause => self.clauseOutcome clause.1 clause.2 object := by
  induction clauses with
  | nil => simp
  | cons clause rest ih => simp [clauseOutcome, ih]

theorem clause_outcome_of_body (h : self.isCombinator = true) (hk : ofName? key = some b)
    (clauses : Document) : self.clauseOutcome key (.document clauses) object =
      self.adjust (b.operator.fold.combine
        (clauses.map fun clause => b.clauseOutcome clause.1 clause.2 object)) := by
  rw [← outcomes_eq_map, clauseOutcome, if_pos h]
  simp only [operandOutcome, hk]

theorem clause_outcome_eq (self : Builtin) (key : String) (operand : Value) (object : Document) :
    self.clauseOutcome key operand object = self.adjust (self.clauseTruth key operand object) := by
  induction self, key, operand using clause_induction with
  | predicate self key operand hc =>
    rw [clause_truth_of_predicate hc, adjust_predicate hc]
    simp [clauseOutcome, hc]
  | unknown self key operand hc hk =>
    rw [clause_truth_of_unknown hc hk]
    simp [clauseOutcome, hc, hk]
  | scalar self key operand b hc hk ho =>
    rw [clause_truth_of_scalar hc hk ho]
    cases operand with
    | document clauses => exact absurd rfl (ho clauses)
    | _ => simp [clauseOutcome, hc, hk]
  | body self key b clauses hc hk ih =>
    rw [clause_truth_of_body hc hk, clause_outcome_of_body hc hk, List.map_congr_left ih, holds,
      ← combine_adjusted, truths_eq_map, List.map_map]
    rfl

theorem visits_nil (path : List Nat) (index : Nat) :
    self.visits path index [] object = [] := by
  simp

theorem visits_cons (path : List Nat) (index : Nat) (rest : List (String × Value)) :
    self.visits path index ((key, operand) :: rest) object =
      self.clauseVisits (path ++ [index]) key operand object ++
        self.visits path (index + 1) rest object := by
  simp [clauseVisits, innerVisits]

theorem inner_visits_of_predicate (h : self.isCombinator = false) (path : List Nat) :
    self.innerVisits path key operand object = [] := by
  simp [innerVisits, h]

theorem inner_visits_of_unknown (hk : ofName? key = none) (path : List Nat) :
    self.innerVisits path key operand object = [] := by
  simp [innerVisits, hk]

theorem inner_visits_of_scalar (ho : ∀ clauses, operand ≠ .document clauses) (path : List Nat) :
    self.innerVisits path key operand object = [] := by
  cases operand with
  | document clauses => exact absurd rfl (ho clauses)
  | _ => cases hk : ofName? key <;> simp [innerVisits, hk]

theorem inner_visits_of_body (h : self.isCombinator = true) (hk : ofName? key = some b)
    (path : List Nat) (clauses : Document) :
    self.innerVisits path key (.document clauses) object = b.visits path 0 clauses object := by
  simp [innerVisits, h, hk]

theorem visit_induction (object : Document) {motive : Builtin → String → Value → Prop}
    (alone : ∀ self key operand,
      (∀ path, self.innerVisits path key operand object = []) → motive self key operand)
    (body : ∀ self key b clauses, self.isCombinator = true → ofName? key = some b →
      (∀ clause ∈ clauses, motive b clause.1 clause.2) → motive self key (.document clauses))
    (self : Builtin) (key : String) (operand : Value) : motive self key operand := by
  induction self, key, operand using clause_induction with
  | predicate self key operand hc => exact alone self key operand (inner_visits_of_predicate hc)
  | unknown self key operand _ hk => exact alone self key operand (inner_visits_of_unknown hk)
  | scalar self key operand _ _ _ ho => exact alone self key operand (inner_visits_of_scalar ho)
  | body self key b clauses hc hk ih => exact body self key b clauses hc hk ih

end Equations

section Visits

variable (self : Builtin) (key : String) (operand : Value) (clauses : List (String × Value))
  (object : Document) (path : List Nat) (index : Nat)

theorem visits_failure_of {self : Builtin} {clauses : List (String × Value)}
    (h : ∀ clause ∈ clauses, ∀ path,
      (self.clauseVisits path clause.1 clause.2 object).findSome? Visit.failure? =
        (self.clauseFailures clause.1 clause.2 object).head?) :
    (self.visits path index clauses object).findSome? Visit.failure? =
      (self.failures clauses object).head? := by
  induction clauses generalizing index with
  | nil => simp [visits_nil, failures_nil]
  | cons clause rest ih =>
    obtain ⟨hc, hr⟩ := List.forall_mem_cons.mp h
    rw [visits_cons, failures_cons, List.findSome?_append, List.head?_append, hc, ih _ hr]

/-- The first failure in a subtree is the first one of its clause. -/
theorem clause_visits_failure :
    (self.clauseVisits path key operand object).findSome? Visit.failure? =
      (self.clauseFailures key operand object).head? := by
  induction self, key, operand using visit_induction object generalizing path with
  | alone self key operand h => simp [clauseVisits, h, ownVisit]
  | body self key b clauses hc hk ih =>
    rw [clauseVisits, inner_visits_of_body hc hk, List.findSome?_append,
      visits_failure_of object path 0 fun clause hm path => ih clause hm path]
    simp [ownVisit, clause_failures_of_body hc hk]

theorem visits_failure : (self.visits path index clauses object).findSome? Visit.failure? =
    (self.failures clauses object).head? :=
  visits_failure_of object path index fun clause _ path =>
    clause_visits_failure self clause.1 clause.2 object path

/-- The clauses of a subtree: none comes before one that it encloses. -/
structure Nested (path : List Nat) (vs : List Visit) : Prop where
  below : ∀ v ∈ vs, path <+: v.path
  order : vs.Pairwise fun u v => ¬ u.Encloses v

/-- The clauses of a body, from an index on. -/
structure Arranged (path : List Nat) (index : Nat) (vs : List Visit) : Prop where
  place : ∀ v ∈ vs, ∃ i, index ≤ i ∧ path ++ [i] <+: v.path
  order : vs.Pairwise fun u v => ¬ u.Encloses v

theorem Arranged.nil (path : List Nat) (index : Nat) : Arranged path index [] :=
  ⟨by simp, .nil⟩

theorem Arranged.own {path : List Nat} {index : Nat} {vs : List Visit}
    (h : Arranged path index vs) {own : Visit} (ho : own.path = path) :
    Nested path (vs ++ [own]) := by
  constructor
  · intro v hv
    rcases List.mem_append.mp hv with hv | hv
    · obtain ⟨i, -, hp⟩ := h.place v hv
      exact (List.prefix_append path [i]).trans hp
    · obtain rfl := List.mem_singleton.mp hv
      rw [ho]
  · refine List.pairwise_append.mpr ⟨h.order, List.pairwise_singleton _ _, fun u hu v hv he => ?_⟩
    obtain rfl := List.mem_singleton.mp hv
    obtain ⟨i, -, hp⟩ := h.place u hu
    have hl := (hp.trans he).length_le
    simp only [ho, List.length_append, List.length_singleton] at hl
    omega

theorem Nested.followed {path : List Nat} {index : Nat} {first rest : List Visit}
    (h : Nested (path ++ [index]) first) (k : Arranged path (index + 1) rest) :
    Arranged path index (first ++ rest) := by
  constructor
  · intro v hv
    rcases List.mem_append.mp hv with hv | hv
    · exact ⟨index, le_rfl, h.below v hv⟩
    · obtain ⟨i, hi, hp⟩ := k.place v hv
      exact ⟨i, by omega, hp⟩
  · refine List.pairwise_append.mpr ⟨h.order, k.order, fun u hu v hv he => ?_⟩
    obtain ⟨i, hi, hp⟩ := k.place v hv
    have hpath := List.prefix_of_prefix_length_le ((h.below u hu).trans he) hp (by simp)
    have heq := hpath.eq_of_length (by simp)
    simp only [List.append_cancel_left_eq, List.cons.injEq, and_true] at heq
    omega

theorem visits_arranged_of {self : Builtin} {clauses : List (String × Value)}
    (h : ∀ clause ∈ clauses, ∀ path,
      Nested path (self.clauseVisits path clause.1 clause.2 object)) :
    Arranged path index (self.visits path index clauses object) := by
  induction clauses generalizing index with
  | nil =>
    rw [visits_nil]
    exact .nil path index
  | cons clause rest ih =>
    obtain ⟨hc, hr⟩ := List.forall_mem_cons.mp h
    rw [visits_cons]
    exact (hc _).followed (ih _ hr)

theorem clause_visits_nested : Nested path (self.clauseVisits path key operand object) := by
  induction self, key, operand using visit_induction object generalizing path with
  | alone self key operand h =>
    rw [clauseVisits, h]
    exact (Arranged.nil path 0).own rfl
  | body self key b clauses hc hk ih =>
    rw [clauseVisits, inner_visits_of_body hc hk]
    exact (visits_arranged_of object path 0 fun clause hm path => ih clause hm path).own rfl

theorem visits_arranged : Arranged path index (self.visits path index clauses object) :=
  visits_arranged_of object path index fun clause _ path =>
    clause_visits_nested self clause.1 clause.2 object path

end Visits

def completedLines (vs : List Visit) : List String :=
  (vs.takeWhile Visit.isCompleted).map Visit.line

section Lines

variable {vs : List Visit}

theorem completed_lines_append (rest : List Visit) (h : vs.findSome? Visit.failure? = none) :
    completedLines (vs ++ rest) = vs.map Visit.line ++ completedLines rest := by
  have hc : ∀ v ∈ vs, v.isCompleted = true := by
    simpa [Visit.isCompleted, List.findSome?_eq_none_iff] using h
  rw [completedLines, List.takeWhile_append_of_pos hc, List.map_append]
  rfl

theorem completed_lines_of_all (h : vs.findSome? Visit.failure? = none) :
    completedLines vs = vs.map Visit.line := by
  simpa [completedLines] using completed_lines_append [] h

theorem completed_lines_of_failing {v : Visit} {rest : List Visit} {failure : Failure}
    (h : v.failure? = some failure) : completedLines (vs ++ v :: rest) = completedLines vs := by
  induction vs with
  | nil => simp [completedLines, Visit.isCompleted, h]
  | cons u vs ih =>
    cases hu : u.isCompleted <;> simp_all [completedLines]

theorem verdict_lines (v : Verdict) : v.run.lines = [] := by
  unfold Verdict.run Run.lines
  cases v.rejectedPattern <;> rfl

variable (self : Builtin) (beyond : Evaluator) (key : String) (operand : Value)
  (clauses : List (String × Value)) (object : Document) (path : List Nat) (index : Nat)

theorem clause_runs_lines {self : Builtin} {clauses : List (String × Value)}
    (h : ∀ clause ∈ clauses, ∀ path, (self.clauseRun beyond clause.1 clause.2 object).lines =
      completedLines (self.innerVisits path clause.1 clause.2 object)) :
    (evaluateClauses .builtin beyond self.name self.operator clauses object).lines =
      completedLines (self.visits path index clauses object) := by
  induction clauses generalizing index with
  | nil =>
    rw [visits_nil, evaluateClauses_nil]
    rfl
  | cons clause rest ih =>
    obtain ⟨key, operand⟩ := clause
    obtain ⟨hc, hr⟩ := List.forall_mem_cons.mp h
    have hc := hc (path ++ [index])
    have result := clause_result self beyond key operand object
    have failure := clause_visits_failure self key operand object (path ++ [index])
    rw [clause_runs_cons, visits_cons]
    cases hf : self.clauseFailures key operand object with
    | nil =>
      rw [hf, settle_nil] at result
      rw [hf, List.head?_nil] at failure
      have inner := failure
      rw [clauseVisits, List.findSome?_append, Option.or_eq_none_iff] at inner
      rw [Run.lines_and_then_of_ok result, completed_lines_append _ failure, ← ih _ hr, hc,
        completed_lines_of_all inner.1, clauseVisits]
      simp [Run.lines, Run.map, Event.line?, Visit.line, ownVisit, clause_outcome_eq]
    | cons first others =>
      rw [hf, settle_cons] at result
      have own : (self.ownVisit (path ++ [index]) key operand object).failure? = some first := by
        simp [ownVisit, hf]
      rw [Run.lines_and_then_of_error result, hc, clauseVisits, List.append_assoc,
        List.singleton_append, completed_lines_of_failing own]

theorem clause_lines : (self.clauseRun beyond key operand object).lines =
    completedLines (self.innerVisits path key operand object) := by
  induction self, key, operand using clause_induction generalizing path with
  | predicate self key operand hc =>
    rw [inner_visits_of_predicate hc]
    cases self with
    | and | or | not => cases hc
    | _ => exact verdict_lines _
  | unknown self key operand hc hk =>
    rw [clause_run_of_unknown hc hk, inner_visits_of_unknown hk]
    rfl
  | scalar self key operand b hc hk ho =>
    rw [clause_run_of_scalar hc hk ho, inner_visits_of_scalar ho]
    rfl
  | body self key b clauses hc hk ih =>
    rw [clause_run_of_body hc hk, Run.lines_map, Run.lines_map, inner_visits_of_body hc hk,
      ← ofName?_eq_some_iff.mp hk]
    exact clause_runs_lines beyond object path 0 fun clause hm path => ih clause hm path

end Lines

end Builtin

open Builtin

theorem run_lines (limit : Nat) (query object : Document) :
    (Registry.builtin.run limit query object).lines =
      completedLines (queryVisits query object) := by
  rw [run_of_query, Run.lines_map]
  exact clause_runs_lines _ object [] 0 fun clause _ path =>
    clause_lines .and _ clause.1 clause.2 object path

/-- A capture around a match gets one line for each clause of the query, in the order in which they
end. If the match fails, the lines stop at the first clause with a failure, so that neither this
clause nor one around it has a line. As many clauses are counted as there are lines. -/
theorem capture_of_match (h : Host) (query object : Document) (elapsed : UInt64) :
    let matched := h.beginCapture.decide .builtin query object elapsed
    let lines := (matched.2.endCapture h.captured).1
    let visits := queryVisits query object
    matched.2.counters.get .clauses = h.counters.get .clauses + UInt64.ofNat lines.length ∧
      match matched.1 with
      | some (.ok _) => (∀ v ∈ visits, v.isCompleted = true) ∧ lines = visits.map Visit.line
      | some (.error failure) => ∃ before failing after, visits = before ++ failing :: after ∧
          (∀ v ∈ before, v.isCompleted = true) ∧ failing.failure? = some failure ∧
          lines = before.map Visit.line ∧ ∀ v ∈ before, ¬ v.Encloses failing
      | none => False := by
  intro matched lines visits
  have hlines : lines = completedLines visits := by
    rw [← run_lines h.limit]
    simp [lines, matched, Host.endCapture, Host.decide_captured, Host.beginCapture]
  have failure : visits.findSome? Visit.failure? = (failures .and query object).head? :=
    visits_failure .and query object [] 0
  have result : matched.1 = some (settle (failures .and query object) (holds .and query object)) :=
    run_result h.limit query object
  constructor
  · rw [Host.decide_counters, Counters.get_incrementAll, List.count_append, run_result,
      Option.elim_some, match_increments_count_clauses, hlines, ← run_lines h.limit,
      Run.length_lines]
    simp [Host.beginCapture]
  · rw [result]
    cases hf : failures .and query object with
    | nil =>
      rw [hf, List.head?_nil] at failure
      refine ⟨fun v hv => ?_, hlines.trans (completed_lines_of_all failure)⟩
      simp [Visit.isCompleted, List.findSome?_eq_none_iff.mp failure v hv]
    | cons first others =>
      rw [hf, List.head?_cons, List.findSome?_eq_some_iff] at failure
      obtain ⟨before, failing, after, split, hfail, hbefore⟩ := failure
      have hb : before.findSome? Visit.failure? = none := List.findSome?_eq_none_iff.mpr hbefore
      refine ⟨before, failing, after, split, fun v hv => ?_, hfail, ?_, fun v hv => ?_⟩
      · simp [Visit.isCompleted, hbefore v hv]
      · rw [hlines, split, completed_lines_of_failing hfail, completed_lines_of_all hb]
      · have order : visits.Pairwise _ := (visits_arranged .and query object [] 0).order
        rw [split, List.pairwise_append] at order
        exact order.2.2 v hv failing (List.mem_cons_self ..)

end Criteria
