import Criteria.Proofs.LogFiles
import Criteria.Proofs.LogSettings

/-!
# Where records go

After logging has been configured in a process every record belongs in one log at most: counters and
slow matches in a log of their own, traces in another one if they are asked for, and the rest in a
third. What belongs in a log is in its file afterwards, and nothing else is.
-/

namespace Criteria.Log

def EndsIn (path name : List Char) : Prop := path = name ∨ ∃ front, path = front ++ '/' :: name

section Replacing

variable {front value suffix : List Char} {last : Char}

/-- What is replaced ends in a character that the suffix does not have, so it ends before it. -/
theorem occurrence_before_suffix {old : List Char} (h : last ∉ suffix)
    (occurs : old ++ [last] <+: front ++ suffix) : old.length < front.length := by
  obtain ⟨more, eq⟩ := occurs
  rcases List.append_eq_append_iff.mp eq with ⟨between, hf, -⟩ | ⟨between, hf, hs⟩
  · rw [hf]
    simp
  · rcases List.eq_nil_or_concat' between with rfl | ⟨init, c, rfl⟩
    · rw [List.append_nil] at hf
      rw [← hf]
      simp
    · rw [← List.append_assoc] at hf
      have same : last = c := List.singleton_inj.mp (List.append_inj' hf rfl).2
      refine absurd ?_ h
      rw [hs, same]
      simp

theorem replace_in_suffix (old : List Char) (h : last ∉ suffix) :
    replaceFrom (old ++ [last]) value 0 suffix = suffix := by
  induction suffix with
  | nil => rfl
  | cons c rest ih =>
    have none : (old ++ [last]).isPrefixOf (c :: rest) = false := by
      rw [Bool.eq_false_iff]
      intro occurs
      have before := @occurrence_before_suffix [] _ _ old h (List.isPrefixOf_iff_prefix.mp occurs)
      exact Nat.not_lt_zero _ before
    rw [replaceFrom, none, if_neg Bool.false_ne_true, ih fun member => h (.tail _ member)]

theorem replace_keeps_suffix (old : List Char) (h : last ∉ suffix) (passed : Nat)
    (le : passed ≤ front.length) :
    ∃ after, replaceFrom (old ++ [last]) value passed (front ++ suffix) = after ++ suffix := by
  -- along what stands before the suffix, of which an occurrence may still be passed over
  induction front generalizing passed with
  | nil =>
    obtain rfl : passed = 0 := Nat.le_zero.mp le
    exact ⟨[], replace_in_suffix old h⟩
  | cons c front ih =>
    rw [List.cons_append]
    cases passed with
    | succ passed => exact ih passed (Nat.le_of_succ_le_succ le)
    | zero =>
      rw [replaceFrom]
      split
      case isTrue occurs =>
        have before := @occurrence_before_suffix (c :: front) _ _ old h
          (List.isPrefixOf_iff_prefix.mp occurs)
        have within : (old ++ [last]).length - 1 ≤ front.length := by
          rw [List.length_append, List.length_singleton, Nat.add_sub_cancel]
          exact Nat.le_of_lt_succ before
        obtain ⟨after, eq⟩ := ih _ within
        exact ⟨value ++ after, by rw [eq, List.append_assoc]⟩
      case isFalse =>
        obtain ⟨after, eq⟩ := ih 0 (Nat.zero_le _)
        exact ⟨c :: after, by rw [eq, List.cons_append]⟩

end Replacing

theorem EndsIn.substitute {path name : String} (h : EndsIn path.toList name.toList)
    (reference value : String) (closed : '\x7d' ∉ '/' :: name.toList) :
    EndsIn (substitute path reference value).toList name.toList := by
  have opened : '\x7d' ∉ name.toList := fun member => closed (.tail _ member)
  unfold Log.substitute
  rw [String.toList_append, String.toList_ofList]
  rcases h with bare | ⟨front, eq⟩
  · left
    rw [bare]
    exact replace_in_suffix _ opened
  · right
    rw [eq]
    exact replace_keeps_suffix _ closed 0 (Nat.zero_le _)

theorem EndsIn.expand {path name : String} (h : EndsIn path.toList name.toList)
    (closed : '\x7d' ∉ '/' :: name.toList) (environment : List (String × String)) :
    EndsIn (expand environment path).toList name.toList := by
  unfold Log.expand
  generalize variablesOf path.toList = names
  induction names generalizing path with
  | nil => exact h
  | cons first rest ih =>
    rw [List.foldl_cons]
    refine ih ?_
    cases environment.lookup first with
    | none => exact h
    | some value => exact h.substitute first value closed

theorem join_ends_in (directory name : String) :
    EndsIn (Path.join directory name).toList name.toList := by
  unfold Path.join
  split
  case isTrue closed =>
    rw [String.toList_append]
    rcases List.eq_nil_or_concat' directory.toList with empty | ⟨init, c, eq⟩
    · rw [empty]
      exact .inl rfl
    · rw [eq] at closed ⊢
      simp only [List.getLast?_concat, Option.all_some, beq_iff_eq] at closed
      rw [closed]
      exact .inr ⟨init, by simp⟩
  case isFalse => exact .inr ⟨directory.toList, by simp⟩

theorem place_of_ends_in {path name : String} (h : EndsIn path.toList name.toList)
    (flat : '/' ∉ name.toList) (proper : name ∉ ["", ".", ".."]) :
    (Path.place path).names.getLast? = some name := by
  have parted : ∃ init, Path.parts path = init ++ [name] := by
    unfold Path.parts
    rcases h with bare | ⟨front, eq⟩
    · rw [bare, List.splitOn_eq_singleton flat]
      exact ⟨[], by simp⟩
    · rw [eq, List.splitOn_append_cons_self, List.splitOn_eq_singleton flat, List.map_append]
      exact ⟨(front.splitOn '/').map String.ofList, by simp⟩
  obtain ⟨init, eq⟩ := parted
  simp only [List.mem_cons, List.not_mem_nil, or_false, not_or] at proper
  obtain ⟨notEmpty, notHere, notUp⟩ := proper
  have named : Path.names path = init.filter (fun name => name ≠ "" ∧ name ≠ ".") ++ [name] := by
    rw [Path.names, eq, List.filter_append]
    simp [notEmpty, notHere]
  rw [Path.place, named, Place.follow, List.foldl_append, List.foldl_cons, List.foldl_nil]
  generalize List.foldl Place.step _ _ = before
  cases before with
  | inside names => simp [Place.step, Place.names, notEmpty, notHere, notUp]
  | outside names => simp [Place.step, Place.names, notEmpty, notHere]

inductive LogName where
  | app
  | metrics
  | traces
deriving DecidableEq

namespace LogName

def file : LogName → String
  | app => "app.log"
  | metrics => "metrics.log"
  | traces => "trace.log"

def place (environment : List (String × String)) (s : Settings) (log : LogName) : Place :=
  Path.place (Logging.pathOf environment s log.file)

/-- Which records belong in a log. The level counts for all but traces. -/
def Takes (level : Filter) (traced : Bool) (record : Record) : LogName → Prop
  | app => ¬ Under record.target metricsTarget ∧ ¬ Under record.target traceTarget ∧
      level.admits record.level = true
  | metrics => Under record.target metricsTarget ∧ level.admits record.level = true
  | traces => Under record.target traceTarget ∧ traced = true

instance (level : Filter) (traced : Bool) (record : Record) (log : LogName) :
    Decidable (log.Takes level traced record) :=
  match log with
  | app => inferInstanceAs (Decidable (¬ Under record.target metricsTarget ∧
      ¬ Under record.target traceTarget ∧ level.admits record.level = true))
  | metrics => inferInstanceAs (Decidable (Under record.target metricsTarget ∧
      level.admits record.level = true))
  | traces => inferInstanceAs (Decidable (Under record.target traceTarget ∧ traced = true))

theorem place_names (environment : List (String × String)) (s : Settings) (log : LogName) :
    (log.place environment s).names.getLast? = some log.file := by
  refine place_of_ends_in ((join_ends_in ..).expand ?_ environment) ?_ ?_
  · cases log <;> decide
  · cases log <;> decide
  · cases log <;> decide

theorem place_injective (environment : List (String × String)) (s : Settings) :
    Function.Injective (place environment s) := by
  intro log other eq
  have named := place_names environment s log
  rw [eq, place_names, Option.some.injEq] at named
  cases log <;> cases other <;> first | rfl | exact absurd named (by decide)

end LogName

theorem not_below_both {target : String} (metrics : isBelow target metricsTarget = true) :
    isBelow target traceTarget = false := by
  rw [Bool.eq_false_iff]
  intro traces
  rw [isBelow, List.isPrefixOf_iff_prefix] at metrics traces
  have both := List.prefix_of_prefix_length_le metrics traces (by decide)
  exact absurd (both.eq_of_length (by decide)) (by decide)

theorem not_under_both {target : String} (metrics : Under target metricsTarget) :
    ¬ Under target traceTarget := by
  intro traces
  have below : isBelow target metricsTarget = true := (is_below_iff (by decide)).mpr metrics
  have also : isBelow target traceTarget = true := (is_below_iff (by decide)).mpr traces
  rw [not_below_both below] at also
  cases also

theorem LogName.takes_unique {level : Filter} {traced : Bool} {record : Record}
    {log other : LogName} (h : log.Takes level traced record)
    (h' : other.Takes level traced record) : log = other := by
  cases log with
  | app =>
    cases other with
    | app => rfl
    | metrics => exact absurd h'.1 h.1
    | traces => exact absurd h'.1 h.2.1
  | metrics =>
    cases other with
    | app => exact absurd h.1 h'.1
    | metrics => rfl
    | traces => exact absurd h'.1 (not_under_both h.1)
  | traces =>
    cases other with
    | app => exact absurd h.1 h'.2.1
    | metrics => exact absurd h.1 (not_under_both h'.1)
    | traces => rfl

namespace Logging

theorem chain_of_two {r : Routing} {l k : Logger} (h : r.loggers = [l, k]) (target : String)
    (apart : l.covers target = true → k.covers target = false) : r.chain target =
      if l.covers target then [l] else if k.covers target then [k] else [] := by
  rw [Routing.chain, h]
  cases hl : l.covers target with
  | true => simp [hl, apart hl]
  | false => cases hk : k.covers target <;> simp [hl, hk]

section Routing

variable (environment : List (String × String)) (s : Settings) (record : Record)

def metricsLogger : Logger :=
  ⟨metricsTarget, .ofSetting s.level, [LogName.metrics.place environment s], false⟩

def traceLogger : Logger :=
  if s.traces then ⟨traceTarget, some .trace, [LogName.traces.place environment s], false⟩
  else ⟨traceTarget, none, [], false⟩

theorem metrics_logger_covers (target : String) :
    (metricsLogger environment s).covers target = isBelow target metricsTarget := rfl

theorem trace_logger_covers (target : String) :
    (traceLogger environment s).covers target = isBelow target traceTarget := by
  unfold traceLogger
  split <;> rfl

theorem routing_chain (target : String) : (routingOf environment s).chain target =
    if isBelow target metricsTarget then [metricsLogger environment s]
    else if isBelow target traceTarget then [traceLogger environment s] else [] := by
  have loggers : (routingOf environment s).loggers =
      [metricsLogger environment s, traceLogger environment s] := rfl
  have chain := chain_of_two loggers target
  rw [metrics_logger_covers, trace_logger_covers] at chain
  exact chain not_below_both

theorem routing_destinations_eq : (routingOf environment s).destinations record =
    if isBelow record.target metricsTarget then
      if (Filter.ofSetting s.level).admits record.level then [LogName.metrics.place environment s]
      else []
    else if isBelow record.target traceTarget then
      if s.traces then [LogName.traces.place environment s] else []
    else if (Filter.ofSetting s.level).admits record.level then [LogName.app.place environment s]
    else [] := by
  have every (level : Level) : Filter.admits (some .trace) level = true := by cases level <;> rfl
  unfold Routing.destinations Routing.enabled Routing.filterFor
  rw [routing_chain]
  split
  · simp [metricsLogger, Routing.filesAlong]
  · split
    · cases traced : s.traces with
      | true => simp [traceLogger, traced, Routing.filesAlong, every record.level]
      | false => simp [traceLogger, traced, Routing.filesAlong]
    · simp [Routing.filesAlong, routingOf, LogName.place, LogName.file]

theorem destinations_count (log : LogName) :
    ((routingOf environment s).destinations record).count (log.place environment s) =
      if log.Takes (.ofSetting s.level) s.traces record then 1 else 0 := by
  have metrics : isBelow record.target metricsTarget = true ↔ Under record.target metricsTarget :=
    is_below_iff (by decide)
  have traces : isBelow record.target traceTarget = true ↔ Under record.target traceTarget :=
    is_below_iff (by decide)
  have reach (other : LogName) (passes : Bool) :
      (if passes = true then [other.place environment s] else []).count (log.place environment s) =
        if passes = true ∧ other = log then 1 else 0 := by
    cases passes with
    | false => simp
    | true =>
      rw [if_pos rfl, List.count_singleton, beq_eq_decide]
      simp only [decide_eq_true_eq, (LogName.place_injective environment s).eq_iff, true_and]
  rw [routing_destinations_eq]
  split
  case isTrue hm =>
    have ht := not_below_both hm
    rw [reach]
    refine if_congr ?_ rfl rfl
    cases log <;> simp [LogName.Takes, ← metrics, ← traces, hm, ht]
  case isFalse hm =>
    split
    case isTrue ht =>
      rw [reach]
      refine if_congr ?_ rfl rfl
      cases log <;> simp [LogName.Takes, ← metrics, ← traces, hm, ht]
    case isFalse ht =>
      rw [reach]
      refine if_congr ?_ rfl rfl
      cases log <;> simp [LogName.Takes, ← metrics, ← traces, hm, ht]

end Routing

/-- The ceiling of a configuration never decides. -/
theorem destinations_of_configured {l : Logging} {r : Routing} (installed : l.installed = some r)
    (ceiling : l.ceiling = r.mostVerbose) (record : Record) :
    l.destinations record = r.destinations record := by
  unfold destinations
  rw [installed]
  split
  case isTrue => rfl
  case isFalse dropped =>
    unfold Routing.destinations
    rw [if_neg]
    intro enabled
    apply dropped
    rw [admits, ceiling]
    exact r.most_verbose_admits enabled

section Configured

variable {environment : List (String × String)} {s : Settings} {l : Logging}
  (installed : l.installed = some (routingOf environment s))
  (ceiling : l.ceiling = (routingOf environment s).mostVerbose) (records : List Record)

include installed ceiling

theorem share_of_log (log : LogName) : l.share (log.place environment s) records =
    records.filter fun record => log.Takes (.ofSetting s.level) s.traces record := by
  induction records with
  | nil => rfl
  | cons record rest ih =>
    rw [share, List.flatMap_cons, ← share, ih, destinations_of_configured installed ceiling,
      destinations_count, List.filter_cons]
    by_cases takes : log.Takes (.ofSetting s.level) s.traces record
    · simp [takes]
    · simp [takes]

theorem share_of_other {place : Place} (other : ∀ log : LogName, place ≠ log.place environment s) :
    l.share place records = [] := by
  refine List.flatMap_eq_nil_iff.mpr fun record _ => ?_
  rw [destinations_of_configured installed ceiling, List.count_eq_zero_of_not_mem,
    List.replicate_zero]
  intro member
  obtain ⟨name, named, eq⟩ := routing_destinations member
  simp only [namesOf, List.cons_append, List.nil_append, List.mem_cons] at named
  rcases named with rfl | rfl | traced
  · exact other .app eq
  · exact other .metrics eq
  · split at traced
    case isTrue =>
      obtain rfl := List.mem_singleton.mp traced
      exact other .traces eq
    case isFalse => cases traced

end Configured

end Logging

end Log

open Log

namespace Host

theorem log_all_of_not_installed {h : Host} (unrecorded : h.recorded = none)
    (unconfigured : h.logging.installed = none) (records : List Record) :
    h.logAll records = h := by
  induction records with
  | nil => rfl
  | cons record rest ih =>
    have kept : h.log record.level record.target record.message = h := by
      rw [log, unrecorded]
      simp only [Logging.write_of_not_installed unconfigured]
      rw [← unrecorded]
    rw [log_all_cons, kept, ih]

theorem configure_logging (h : Host) (s : Settings) :
    h.configure s = ((h.logging.configure h.environment s).1,
      { h with logging := (h.logging.configure h.environment s).2 }) := rfl

def call (h : Host) (c : Call) : Bool × Host := h.configure (c.settings h.environment)

end Host

/-- In a process without a logger nothing is logged until a configuration works. From then on its
three files, each under its own name, get the records that belong there, in order and with nothing
in between, and no other file is written to. -/
theorem configured_logging_routes (h : Host) (c : Call) (before after : List Record)
    (unrecorded : h.recorded = none) (unconfigured : h.logging.installed = none)
    (done : ((h.logAll before).call c).1 = true) :
    let place := LogName.place h.environment (c.settings h.environment)
    let files := h.logging.files
    let ended := (((h.logAll before).call c).2.logAll after).logging.files
    h.logAll before = h ∧
    (∀ log, (place log).names.getLast? = some log.file) ∧ Function.Injective place ∧
    ∃ level traced, Asks (c.levelText h.environment) level ∧
      (traced = true ↔ c.AsksForTraces h.environment) ∧
      (∀ record log other, LogName.Takes level traced record log →
        LogName.Takes level traced record other → log = other) ∧
      (∀ log, ended.contents (place log) = files.contents (place log) ++
        after.filter fun record => log.Takes level traced record) ∧
      ∀ other, (∀ log, other ≠ place log) → ended.contents other = files.contents other := by
  intro place files ended
  have silent := Host.log_all_of_not_installed unrecorded unconfigured before
  rw [silent, Host.call, Host.configure_logging] at done
  generalize hs : c.settings h.environment = s at done
  -- the configured logging, whose loggers and ceiling are those of the settings
  have grown := Logging.configure_files h.environment s h.logging
  have installed := Logging.configure_installed h.environment s h.logging
  have ceiling := Logging.configure_ceiling h.environment s h.logging
  have ready := (Logging.ready_of_not_installed unconfigured).configure h.environment s
  have prepared := done
  rw [Logging.configure_done, Bool.and_eq_true] at prepared
  rw [if_pos done] at installed
  rw [if_pos prepared.1] at ceiling
  have contents (q : Place) : ended.contents q = files.contents q ++
      (h.logging.configure h.environment s).2.share q after := by
    have written : ended = (after.foldl Logging.write
        (h.logging.configure h.environment s).2).files := by
      unfold ended
      rw [silent, Host.log_all_logging, Host.call, Host.configure_logging, unrecorded, hs]
      rfl
    have kept := (Logging.prepare_grows h.environment s h.logging.files).contents q
    rw [← grown] at kept
    rw [written, ready.write_all_contents, kept]
  refine ⟨silent, LogName.place_names _ _, LogName.place_injective _ _, Filter.ofSetting s.level,
    s.traces, ?_, ?_, fun record log other => LogName.takes_unique, fun log => ?_,
    fun other apart => ?_⟩
  · rw [← hs, Call.settings_level]
    exact asks_of_setting _
  · rw [← hs]
    exact c.traces_iff h.environment
  · rw [contents]
    unfold place
    rw [hs, Logging.share_of_log installed ceiling]
  · unfold place at apart
    rw [hs] at apart
    rw [contents, Logging.share_of_other installed ceiling after apart, List.append_nil]

theorem look_alike_target_not_traced :
    let h : Host := { threshold := 0 }
    let c : Call := .explicit { level := some "OFF", traces := true }
    let after : List Record :=
      [⟨.debug, "docmatch::trace::leaf", "a"⟩, ⟨.error, "docmatch::tracer", "b"⟩]
    h.recorded = none ∧ h.logging.installed = none ∧ (h.call c).1 = true ∧
      ((h.call c).2.logAll after).logging.files.contents (.inside ["trace.log"]) =
        after.take 1 := by
  intro h c after
  have done : (h.call c).1 = true := by decide
  refine ⟨rfl, rfl, done, ?_⟩
  obtain ⟨-, -, -, level, traced, -, asked, -, logs, -⟩ :=
    configured_logging_routes h c [] after rfl rfl done
  have on : traced = true := asked.mpr rfl
  have file : LogName.place h.environment (c.settings h.environment) .traces =
      .inside ["trace.log"] := by decide
  have written := logs .traces
  rw [file, Host.log_all_nil, on] at written
  rw [written]
  rfl

end Criteria
