import Criteria.Proofs.HostEffects

/-!
# What is handed to the log

Every move of a host hands a list of records to the log, one after the other, and changes nothing
else there. The list depends on the move, on the threshold of slow matches and on whether the shared
registry has been used; it does not depend on what is logged where, so a trace line counts as handed
over also when no logger wants it.
-/

namespace Criteria

open Log

namespace Log.Logging

theorem destinations_of_disabled {l : Logging} {record : Record}
    (h : l.enabled record.target record.level = false) : l.destinations record = [] := by
  unfold enabled at h
  unfold destinations
  split
  case isFalse => rfl
  case isTrue admitted =>
    rw [admitted, Bool.true_and] at h
    cases hi : l.installed with
    | none => rfl
    | some r =>
      rw [hi, Option.any_some] at h
      simp [Routing.destinations, h]

theorem write_of_disabled {l : Logging} {record : Record}
    (h : l.enabled record.target record.level = false) : l.write record = l := by
  rw [write, destinations_of_disabled h]
  rfl

end Log.Logging

namespace Host

def logAll (h : Host) (records : List Record) : Host :=
  records.foldl (fun h r => h.log r.level r.target r.message) h

section Handing

variable (h : Host) (records more : List Record)

@[simp] theorem log_all_nil : h.logAll [] = h := rfl

theorem log_all_cons (r : Record) :
    h.logAll (r :: records) = (h.log r.level r.target r.message).logAll records := rfl

theorem log_all_append : h.logAll (records ++ more) = (h.logAll records).logAll more :=
  List.foldl_append

@[simp] theorem log_all_shared : (h.logAll records).shared = h.shared := by
  induction records generalizing h with
  | nil => rfl
  | cons r rest ih =>
    rw [log_all_cons, ih, log]
    split <;> rfl

@[simp] theorem log_all_environment : (h.logAll records).environment = h.environment := by
  induction records generalizing h with
  | nil => rfl
  | cons r rest ih =>
    rw [log_all_cons, ih, log]
    split <;> rfl

@[simp] theorem log_all_threshold : (h.logAll records).threshold = h.threshold := by
  induction records generalizing h with
  | nil => rfl
  | cons r rest ih => rw [log_all_cons, ih, log_threshold]

@[simp] theorem log_all_limit : (h.logAll records).limit = h.limit := by
  induction records generalizing h with
  | nil => rfl
  | cons r rest ih => rw [log_all_cons, ih, log_limit]

theorem log_all_counters : (h.logAll records).counters = h.counters := by
  induction records generalizing h with
  | nil => rfl
  | cons r rest ih => rw [log_all_cons, ih, log_counters]

@[simp] theorem log_all_captured : (h.logAll records).captured = h.captured := by
  induction records generalizing h with
  | nil => rfl
  | cons r rest ih => rw [log_all_cons, ih, log_captured]

/-- A recording gets the records in place of the files. -/
theorem log_all_recorded : (h.logAll records).recorded = h.recorded.map (· ++ records) := by
  induction records generalizing h with
  | nil => simp
  | cons r rest ih =>
    rw [log_all_cons, ih, log]
    cases h.recorded <;> simp

theorem log_all_logging : (h.logAll records).logging =
    if h.recorded.isSome then h.logging else records.foldl Logging.write h.logging := by
  induction records generalizing h with
  | nil => simp
  | cons r rest ih =>
    rw [log_all_cons, ih, log]
    cases h.recorded <;> simp

end Handing

/-- Records are handed to the log from one host to the other, and nothing else happens there. -/
structure Logs (h h' : Host) (records : List Record) : Prop where
  environment : h'.environment = h.environment
  threshold : h'.threshold = h.threshold
  limit : h'.limit = h.limit
  recorded : h'.recorded = (h.logAll records).recorded
  logging : h'.logging = (h.logAll records).logging

namespace Logs

variable {h h' h'' : Host} {records more : List Record}

theorem refl (h : Host) : h.Logs h [] := ⟨rfl, rfl, rfl, rfl, rfl⟩

theorem of_log_all (h : Host) (records : List Record) : h.Logs (h.logAll records) records :=
  ⟨log_all_environment h records, log_all_threshold h records, log_all_limit h records, rfl, rfl⟩

theorem trans (first : h.Logs h' records) (second : h'.Logs h'' more) :
    h.Logs h'' (records ++ more) where
  environment := second.environment.trans first.environment
  threshold := second.threshold.trans first.threshold
  limit := second.limit.trans first.limit
  recorded := by
    rw [second.recorded, log_all_append, log_all_recorded, log_all_recorded, first.recorded]
  logging := by
    rw [second.logging, log_all_append, log_all_logging, log_all_logging, first.recorded,
      first.logging]

end Logs

theorem log_logs (h : Host) (level : Level) (target message : String) :
    h.Logs (h.log level target message) [⟨level, target, message⟩] :=
  .of_log_all h [⟨level, target, message⟩]

end Host

def insertRecords (name : String) (op : Operator) : List Record :=
  (if name.startsWith "$" then []
    else [⟨.warn, evaluationTarget, "operator " ++ name ++ " registered without a leading '$'"⟩]) ++
    [⟨.debug, evaluationTarget, "register operator " ++ name ++ " as " ++ op.text⟩]

def builtinRecords : List Record := Builtin.all.flatMap fun b => insertRecords b.name b.operator

namespace Host

variable (h : Host)

theorem report_insert_eq (name : String) (op : Operator) :
    h.reportInsert name op = h.logAll (insertRecords name op) := by
  unfold reportInsert insertRecords
  split <;> rfl

theorem report_builtin_eq : h.reportBuiltin = h.logAll builtinRecords := by
  unfold reportBuiltin builtinRecords
  induction Builtin.all generalizing h with
  | nil => rfl
  | cons b rest ih =>
    rw [List.foldl_cons, ih, report_insert_eq, ← log_all_append, List.flatMap_cons]

def useRecords : List Record := if h.shared.isSome then [] else builtinRecords

theorem use_shared_logs : h.Logs h.useShared.2 h.useRecords := by
  unfold useShared useRecords
  cases hs : h.shared with
  | some r => exact .refl h
  | none =>
    have built := Logs.of_log_all h builtinRecords
    rw [← report_builtin_eq] at built
    exact ⟨built.environment, built.threshold, built.limit, built.recorded, built.logging⟩

theorem use_shared_registry : h.useShared.1 = h.shared.getD .builtin := by
  unfold useShared
  cases h.shared <;> rfl

theorem use_shared_shared : h.useShared.2.shared = some (h.shared.getD .builtin) := by
  unfold useShared
  cases hs : h.shared with
  | some r => exact hs
  | none => rfl

theorem use_shared_captured : h.useShared.2.captured = h.captured := by
  unfold useShared
  cases h.shared with
  | some r => rfl
  | none => rw [report_builtin_eq, log_all_captured]

end Host

def traceRecord (line : String) : Record := ⟨.trace, traceTarget, line⟩

def Event.record : Event → Record
  | .completed operator key outcome => traceRecord (clauseLine operator key outcome)
  | .rejectedPattern => ⟨.debug, evaluationTarget, "$match: " ++ rejection⟩

def outcomeRecord : Outcome → Record
  | .ok b => ⟨.trace, evaluationTarget, "match => " ++ if b then "true" else "false"⟩
  | .error failure => ⟨.debug, evaluationTarget, "match failed: " ++ failure.message⟩

def endRecords (threshold : UInt64) (outcome : Outcome) (elapsed : UInt64) : List Record :=
  (if threshold ≤ elapsed then
    [⟨.warn, metricsTarget, slowMatchLine elapsed threshold (outcome matches .ok _)⟩]
  else []) ++ [outcomeRecord outcome]

/-- The records of a match: its events and its end, if it comes to one. -/
def matchRecords (threshold : UInt64) (limit : Nat) (r : Registry) (query object : Document)
    (elapsed : UInt64) : List Record :=
  let run := r.run limit query object
  run.events.map Event.record ++
    run.result.elim [] fun outcome => endRecords threshold outcome elapsed

namespace Host

variable (h : Host)

theorem emit_logs (line : String) : h.Logs (h.emit line) [traceRecord line] := by
  unfold emit
  split
  case isTrue =>
    have logged := h.log_logs .trace traceTarget line
    exact ⟨logged.environment, logged.threshold, logged.limit, logged.recorded, logged.logging⟩
  case isFalse unwanted =>
    simp only [tracing, Bool.or_eq_true, not_or, Bool.not_eq_true] at unwanted
    obtain ⟨-, quiet, off⟩ := unwanted
    have dropped : h.logging.write (traceRecord line) = h.logging := Logging.write_of_disabled off
    refine ⟨rfl, rfl, rfl, ?_, ?_⟩
    · rw [log_all_recorded]
      cases hr : h.recorded with
      | none => rfl
      | some records => simp [hr] at quiet
    · simp [log_all_logging, quiet, dropped]

theorem observe_logs (event : Event) : h.Logs (h.observe event) [event.record] := by
  cases event with
  | completed operator key outcome =>
    have emitted := emit_logs { h with counters := h.counters.increment .clauses }
      (clauseLine operator key outcome)
    refine ⟨emitted.environment, emitted.threshold, emitted.limit, ?_, ?_⟩
    · rw [log_all_recorded]
      exact emitted.recorded.trans (log_all_recorded ..)
    · rw [log_all_logging]
      exact emitted.logging.trans (log_all_logging ..)
  | rejectedPattern => exact h.log_logs _ _ _

theorem observe_all_logs (events : List Event) :
    h.Logs (h.observeAll events) (events.map Event.record) := by
  induction events generalizing h with
  | nil => exact .refl h
  | cons event rest ih => exact (h.observe_logs event).trans (ih _)

theorem count_logs (outcome : Outcome) (elapsed : UInt64) :
    h.Logs (h.count outcome elapsed)
      (if h.threshold ≤ elapsed then
        [⟨.warn, metricsTarget, slowMatchLine elapsed h.threshold (outcome matches .ok _)⟩]
      else []) := by
  by_cases slow : h.threshold ≤ elapsed
  · simp only [count, slow, decide_true, if_true]
    have logged := log_logs { h with
      counters := h.counters.incrementAll (matchIncrements outcome true) } .warn metricsTarget
      (slowMatchLine elapsed h.threshold (outcome matches .ok _))
    refine ⟨logged.environment, logged.threshold, logged.limit, ?_, ?_⟩
    · rw [log_all_recorded]
      exact logged.recorded.trans (log_all_recorded ..)
    · rw [log_all_logging]
      exact logged.logging.trans (log_all_logging ..)
  · simp only [count, slow, decide_false, if_false]
    exact ⟨rfl, rfl, rfl, rfl, rfl⟩

theorem report_outcome_logs (outcome : Outcome) :
    h.Logs (h.reportOutcome outcome) [outcomeRecord outcome] := by
  cases outcome <;> exact h.log_logs _ _ _

theorem settle_logs (outcome : Outcome) (elapsed : UInt64) :
    h.Logs (h.settle outcome elapsed) (endRecords h.threshold outcome elapsed) :=
  (h.count_logs outcome elapsed).trans (report_outcome_logs _ outcome)

theorem decide_logs (r : Registry) (query object : Document) (elapsed : UInt64) :
    h.Logs (h.decide r query object elapsed).2
      (matchRecords h.threshold h.limit r query object elapsed) := by
  have observed := h.observe_all_logs (r.run h.limit query object).events
  unfold matchRecords
  simp only [Host.decide]
  cases (r.run h.limit query object).result with
  | none => simpa using observed
  | some outcome =>
    rw [← observed.threshold]
    exact observed.trans (settle_logs _ outcome elapsed)

@[simp] theorem log_shared (level : Level) (target message : String) :
    (h.log level target message).shared = h.shared :=
  h.log_all_shared [⟨level, target, message⟩]

@[simp] theorem emit_shared (line : String) : (h.emit line).shared = h.shared := by
  unfold emit
  split <;> simp [keep]

@[simp] theorem observe_all_shared (events : List Event) :
    (h.observeAll events).shared = h.shared := by
  induction events generalizing h with
  | nil => rfl
  | cons event rest ih =>
    rw [observe_all_cons, ih]
    cases event <;> simp [observe]

theorem decide_shared (r : Registry) (query object : Document) (elapsed : UInt64) :
    (h.decide r query object elapsed).2.shared = h.shared := by
  have reported (h : Host) (outcome : Outcome) : (h.reportOutcome outcome).shared = h.shared := by
    cases outcome <;> exact h.log_shared _ _ _
  have counted (h : Host) (outcome : Outcome) : (h.count outcome elapsed).shared = h.shared := by
    by_cases slow : h.threshold ≤ elapsed <;> simp [count, slow]
  simp only [Host.decide]
  cases (r.run h.limit query object).result <;> simp [settle, reported, counted]

end Host

end Criteria
