import Criteria.Evaluation
import Criteria.Log.Routing
import Criteria.Telemetry

/-!
# The host of matches

What matches share and leave behind while a process runs: counters, the registry that is shared by
the whole process, the lines that are being captured, and logging. Every move is a function on the
whole state. A match takes no time here unless it is said how much.
-/

namespace Criteria

open Log

structure Host where
  environment : List (String × String) := []
  counters : Counters := {}
  threshold : UInt64
  /-- How deep evaluations of values that are no operands may nest. -/
  limit : Nat := 100
  shared : Option Registry := none
  captured : Option (List String) := none
  /-- The records of the innermost recording that is running; it gets them in place of the files. -/
  recorded : Option (List Record) := none
  logging : Logging := {}

namespace Host

def admits (h : Host) (level : Level) : Bool := h.recorded.isSome || h.logging.admits level

def log (h : Host) (level : Level) (target message : String) : Host :=
  match h.recorded with
  | some records => { h with recorded := some (records ++ [⟨level, target, message⟩]) }
  | none => { h with logging := h.logging.write ⟨level, target, message⟩ }

def tracing (h : Host) : Bool := h.recorded.isSome || h.logging.enabled traceTarget .trace

def isCapturing (h : Host) : Bool := h.captured.isSome

def keep (h : Host) (line : String) : Host :=
  { h with captured := h.captured.map fun lines => lines ++ [line] }

/-- Emits a line. It is logged and captured, unless nobody wants it. -/
def emit (h : Host) (line : String) : Host :=
  if h.isCapturing || h.tracing then (h.log .trace traceTarget line).keep line else h

def beginCapture (h : Host) : Host := { h with captured := some [] }

def endCapture (h : Host) (before : Option (List String)) : List String × Host :=
  (h.captured.getD [], { h with captured := before })

def enterThread (h : Host) : Host := { h with captured := none }

def leaveThread (h : Host) (before : Option (List String)) : Host := { h with captured := before }

def reportInsert (h : Host) (name : String) (op : Operator) : Host :=
  let h :=
    if name.startsWith "$" then h
    else h.log .warn evaluationTarget ("operator " ++ name ++ " registered without a leading '$'")
  h.log .debug evaluationTarget ("register operator " ++ name ++ " as " ++ op.text)

def reportBuiltin (h : Host) : Host :=
  Builtin.all.foldl (fun h b => h.reportInsert b.name b.operator) h

/-- The shared registry. Its first use makes it. -/
def useShared (h : Host) : Registry × Host :=
  match h.shared with
  | some r => (r, h)
  | none => (.builtin, { h.reportBuiltin with shared := some .builtin })

def resetShared (h : Host) : Host := { h.useShared.2.reportBuiltin with shared := some .builtin }

def observe (h : Host) : Event → Host
  | .completed operator key outcome =>
    { h with counters := h.counters.increment .clauses }.emit (clauseLine operator key outcome)
  | .rejectedPattern => h.log .debug evaluationTarget ("$match: " ++ rejection)

def observeAll (h : Host) (events : List Event) : Host := events.foldl observe h

/-- Counts a match that took a number of microseconds, and reports it if it was slow. -/
def count (h : Host) (outcome : Outcome) (elapsed : UInt64) : Host :=
  let slow := h.threshold ≤ elapsed
  let h := { h with counters := h.counters.incrementAll (matchIncrements outcome slow) }
  if slow then
    h.log .warn metricsTarget (slowMatchLine elapsed h.threshold (outcome matches .ok _))
  else h

def reportOutcome (h : Host) : Outcome → Host
  | .ok b => h.log .trace evaluationTarget ("match => " ++ if b then "true" else "false")
  | .error failure => h.log .debug evaluationTarget ("match failed: " ++ failure.message)

def evaluate (h : Host) (r : Registry) (operator : String) (body : Value) (object : Document) :
    Option Outcome × Host :=
  let run := r.runBody h.limit operator body object
  (run.result, h.observeAll run.events)

def settle (h : Host) (outcome : Outcome) (elapsed : UInt64) : Host :=
  (h.count outcome elapsed).reportOutcome outcome

def decide (h : Host) (r : Registry) (query object : Document) (elapsed : UInt64) :
    Option Outcome × Host :=
  let run := r.run h.limit query object
  let observed := h.observeAll run.events
  (run.result, run.result.elim observed fun outcome => observed.settle outcome elapsed)

def logCounters (h : Host) : Host := h.log .info metricsTarget h.counters.json

def configure (h : Host) (settings : Settings) : Bool × Host :=
  match h.logging.configure h.environment settings with
  | (done, logging) => (done, { h with logging := logging })

def start (h : Host) : Bool × Host :=
  match h.configure (Settings.ofEnvironment h.environment) with
  | (true, h) =>
    if h.admits .info then
      match h.useShared with
      | (r, h) => (true, h.log .info evaluationTarget ("operators: " ++ Quoted.encodeList r.names))
    else (true, h)
  | (false, h) => (false, h)

def defaultThreshold (h : Host) : UInt64 :=
  Criteria.defaultThreshold (h.environment.lookup "DOCMATCH_SLOW_MATCH_US")

end Host

end Criteria
