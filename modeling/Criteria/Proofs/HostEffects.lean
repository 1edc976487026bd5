import Criteria.Host

/-!
# What evaluations leave behind

An evaluation adds the lines of its completed clauses to the capture that is running and their
number to a counter; a match raises counters of its own besides. Logging touches neither.
-/

namespace Criteria

theorem Counters.get_incrementAll (s : Counters) (which : List Counter) (c : Counter) :
    (s.incrementAll which).get c = s.get c + UInt64.ofNat (which.count c) := by
  induction which generalizing s with
  | nil => simp
  | cons d rest ih =>
    have step : s.incrementAll (d :: rest) = (s.increment d).incrementAll rest := rfl
    rw [step, ih, get_increment, List.count_cons]
    by_cases h : c = d
    · subst h
      rw [if_pos rfl, beq_self_eq_true, if_pos rfl, UInt64.ofNat_add, UInt64.add_assoc]
      exact congrArg _ (UInt64.add_comm ..)
    · simp [h, Ne.symm h]

theorem match_increments_count_clauses (outcome : Outcome) (slow : Bool) :
    (matchIncrements outcome slow).count .clauses = 0 := by
  rcases outcome with (_ | _) | (_ | _) <;> cases slow <;> rfl

theorem match_increments_count_congr (outcome : Outcome) (slow slow' : Bool) {c : Counter}
    (h : c ≠ .slow) :
    (matchIncrements outcome slow).count c = (matchIncrements outcome slow').count c := by
  have hs (slow : Bool) : (if slow then [Counter.slow] else []).count c = 0 := by
    cases slow <;> simp [Ne.symm h]
  rw [matchIncrements, matchIncrements, List.count_append, List.count_append, hs, hs]

namespace Run

variable {α β : Type}

theorem length_lines (r : Run α) : r.lines.length = r.clauseCount := by
  rw [lines, clauseCount, List.length_filterMap_eq_countP]
  refine List.countP_congr fun event _ => ?_
  cases event <;> simp [Event.line?, Event.isCompleted]

@[simp] theorem lines_map (f : α → β) (r : Run α) : (r.map f).lines = r.lines := rfl

theorem lines_and_then_of_ok {r : Run α} {value : α} (h : r.result = some (.ok value))
    (next : α → Run β) : (r.andThen next).lines = r.lines ++ (next value).lines := by
  simp [lines, andThen, followedBy, h, List.filterMap_append]

theorem lines_and_then_of_error {r : Run α} {failure : Failure}
    (h : r.result = some (.error failure)) (next : α → Run β) :
    (r.andThen next).lines = r.lines := by
  simp [lines, andThen, followedBy, ofFailure, h]

end Run

namespace Host

section Logging

variable (h : Host) (level : Log.Level) (target message line : String)

@[simp] theorem log_captured : (h.log level target message).captured = h.captured := by
  unfold log
  split <;> rfl

@[simp] theorem log_counters : (h.log level target message).counters = h.counters := by
  unfold log
  split <;> rfl

@[simp] theorem log_threshold : (h.log level target message).threshold = h.threshold := by
  unfold log
  split <;> rfl

@[simp] theorem log_limit : (h.log level target message).limit = h.limit := by
  unfold log
  split <;> rfl

@[simp] theorem emit_threshold : (h.emit line).threshold = h.threshold := by
  unfold emit
  split <;> simp [keep]

@[simp] theorem emit_counters : (h.emit line).counters = h.counters := by
  unfold emit
  split <;> simp [keep]

theorem emit_captured : (h.emit line).captured = h.captured.map fun lines => lines ++ [line] := by
  unfold emit
  split
  · simp [keep]
  · cases hc : h.captured with
    | none => rfl
    | some lines => simp_all [isCapturing]

end Logging

theorem observe_captured (h : Host) (event : Event) :
    (h.observe event).captured = h.captured.map fun lines => lines ++ event.line?.toList := by
  cases event with
  | completed operator key outcome => simp [observe, emit_captured, Event.line?]
  | rejectedPattern => simp [observe, Event.line?]

theorem observe_all_cons (h : Host) (event : Event) (rest : List Event) :
    h.observeAll (event :: rest) = (h.observe event).observeAll rest := rfl

theorem observe_all_captured (h : Host) (events : List Event) :
    (h.observeAll events).captured =
      h.captured.map fun lines => lines ++ events.filterMap Event.line? := by
  induction events generalizing h with
  | nil => simp [observeAll]
  | cons event rest ih =>
    rw [observe_all_cons, ih, observe_captured]
    cases hl : event.line? <;> simp [Function.comp_def, hl]

theorem observe_all_counters (h : Host) (events : List Event) :
    (h.observeAll events).counters =
      h.counters.incrementAll (List.replicate (events.countP Event.isCompleted) .clauses) := by
  induction events generalizing h with
  | nil => simp [observeAll]
  | cons event rest ih =>
    rw [observe_all_cons, ih]
    cases event with
    | completed operator key outcome =>
      rw [List.countP_cons_of_pos rfl, List.replicate_succ]
      simp [observe, Counters.incrementAll]
    | rejectedPattern => simp [observe, Event.isCompleted]

@[simp] theorem observe_all_threshold (h : Host) (events : List Event) :
    (h.observeAll events).threshold = h.threshold := by
  induction events generalizing h with
  | nil => rfl
  | cons event rest ih =>
    rw [observe_all_cons, ih]
    cases event <;> simp [observe]

section Matches

variable (h : Host) (r : Registry) (query object : Document) (outcome : Outcome) (elapsed : UInt64)

@[simp] theorem count_captured : (h.count outcome elapsed).captured = h.captured := by
  by_cases hs : h.threshold ≤ elapsed <;> simp [count, hs]

@[simp] theorem count_counters : (h.count outcome elapsed).counters =
    h.counters.incrementAll (matchIncrements outcome (h.threshold ≤ elapsed)) := by
  by_cases hs : h.threshold ≤ elapsed <;> simp [count, hs]

@[simp] theorem report_outcome_captured : (h.reportOutcome outcome).captured = h.captured := by
  cases outcome <;> simp [reportOutcome]

@[simp] theorem report_outcome_counters : (h.reportOutcome outcome).counters = h.counters := by
  cases outcome <;> simp [reportOutcome]

theorem decide_captured : (h.decide r query object elapsed).2.captured =
    h.captured.map fun lines => lines ++ (r.run h.limit query object).lines := by
  simp only [Host.decide, Run.lines]
  cases (r.run h.limit query object).result <;> simp [settle, observe_all_captured]

/-- A match counts its completed clauses, itself, its outcome, and whether it was slow. One that was
given up counts its completed clauses only. -/
theorem decide_counters : (h.decide r query object elapsed).2.counters =
    h.counters.incrementAll
      (List.replicate (r.run h.limit query object).clauseCount .clauses ++
        (r.run h.limit query object).result.elim [] fun outcome =>
          matchIncrements outcome (h.threshold ≤ elapsed)) := by
  simp only [Host.decide, Run.clauseCount]
  cases (r.run h.limit query object).result <;>
    simp [settle, observe_all_counters, Counters.incrementAll_append]

end Matches

end Host

end Criteria
