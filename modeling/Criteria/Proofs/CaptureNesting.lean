import Criteria.Proofs.RegistryLineage

/-!
# Nested captures

Programs emit lines, run matches, capture what other programs emit, and run others on threads that
they wait for. A line belongs to the innermost capture around it on its own thread, and to none if
nothing is captured there. Whoever it belongs to, it is handed to the log.
-/

namespace Criteria

open Log

inductive Program where
  | nothing
  | emit (line : String)
  | decide (registry : RegistryName) (query object : Document) (elapsed : UInt64)
  | ask
  | sequence (first second : Program)
  | capture (body : Program)
  | thread (body : Program)

structure Report where
  captures : List (List String) := []
  notes : List Bool := []

namespace Program

def run : Program → Session → Report × Session
  | nothing, s => ({}, s)
  | emit line, s => ({}, s.onHost fun h => h.emit line)
  | decide registry query object elapsed, s =>
    ({}, (s.decide registry query object elapsed).2)
  | ask, s => ({ notes := [s.host.isCapturing] }, s)
  | sequence first second, s =>
    let begun := first.run s
    let ended := second.run begun.2
    (⟨begun.1.captures ++ ended.1.captures, begun.1.notes ++ ended.1.notes⟩, ended.2)
  | capture body, s =>
    let ended := s.capturing body.run
    (⟨ended.1.2 :: ended.1.1.captures, ended.1.1.notes⟩, ended.2)
  | thread body, s => s.onThread body.run

section Lines

variable (lines : RegistryName → Document → Document → List String)

def emitted : Program → List String
  | nothing => []
  | emit line => [line]
  | decide registry query object _ => lines registry query object
  | ask => []
  | sequence first second => first.emitted ++ second.emitted
  | capture body => body.emitted
  | thread body => body.emitted

/-- The lines that are emitted on the thread of the program outside its captures. -/
def own : Program → List String
  | nothing => []
  | emit line => [line]
  | decide registry query object _ => lines registry query object
  | ask => []
  | sequence first second => first.own ++ second.own
  | capture _ => []
  | thread _ => []

/-- The own lines of the bodies of all captures, in the order in which these begin. -/
def shares : Program → List (List String)
  | nothing => []
  | emit _ => []
  | decide .. => []
  | ask => []
  | sequence first second => first.shares ++ second.shares
  | capture body => body.own lines :: body.shares
  | thread body => body.shares

/-- The lines of other threads that are emitted there outside captures. -/
def loose : Program → List String
  | nothing => []
  | emit _ => []
  | decide .. => []
  | ask => []
  | sequence first second => first.loose ++ second.loose
  | capture body => body.loose
  | thread body => body.own lines ++ body.loose

theorem emitted_partition (p : Program) :
    (p.emitted lines).Perm ((p.shares lines).flatten ++ (p.own lines ++ p.loose lines)) := by
  induction p with
  | nothing => exact .refl _
  | emit line => exact .refl _
  | decide registry query object elapsed =>
    rw [emitted, shares, own, loose, List.flatten_nil, List.nil_append, List.append_nil]
  | ask => exact .refl _
  | sequence first second ihf ihs =>
    rw [List.perm_iff_count] at ihf ihs ⊢
    intro line
    simp only [emitted, shares, own, loose, List.flatten_append, List.count_append, ihf, ihs]
    omega
  | capture body ih =>
    rw [emitted, shares, own, loose, List.flatten_cons, List.nil_append]
    refine ih.trans ?_
    rw [← List.append_assoc]
    exact List.perm_append_comm.append_right _
  | thread body ih => exact ih

end Lines

def notes : Program → Bool → List Bool
  | nothing, _ => []
  | emit _, _ => []
  | decide .., _ => []
  | ask, active => [active]
  | sequence first second, active => first.notes active ++ second.notes active
  | capture body, _ => body.notes true
  | thread body, _ => body.notes false

end Program

namespace Log

def Record.isTrace (r : Record) : Bool := r.target == traceTarget

end Log

theorem insert_records_trace (name : String) (op : Operator) :
    (insertRecords name op).filter Record.isTrace = [] := by
  unfold insertRecords
  split <;> rfl

theorem builtin_records_trace : builtinRecords.filter Record.isTrace = [] := by
  rw [builtinRecords, List.filter_flatMap]
  exact List.flatMap_eq_nil_iff.mpr fun b _ => insert_records_trace b.name b.operator

theorem event_records_trace (events : List Event) :
    (events.map Event.record).filter Record.isTrace =
      (events.filterMap Event.line?).map traceRecord := by
  induction events with
  | nil => rfl
  | cons event rest ih =>
    cases event with
    | completed operator key outcome => exact congrArg (traceRecord _ :: ·) ih
    | rejectedPattern => exact ih

theorem end_records_trace (threshold : UInt64) (outcome : Outcome) (elapsed : UInt64) :
    (endRecords threshold outcome elapsed).filter Record.isTrace = [] := by
  unfold endRecords
  split <;> cases outcome <;> rfl

theorem match_records_trace (threshold : UInt64) (limit : Nat) (r : Registry)
    (query object : Document) (elapsed : UInt64) :
    (matchRecords threshold limit r query object elapsed).filter Record.isTrace =
      (r.run limit query object).lines.map traceRecord := by
  simp only [matchRecords, Run.lines, List.filter_append, event_records_trace]
  cases (r.run limit query object).result with
  | none => exact List.append_nil _
  | some outcome => rw [Option.elim_some, end_records_trace, List.append_nil]

namespace Log.Logging

theorem write_all_filter (l : Logging) {wanted : Record → Bool} {records : List Record}
    (h : ∀ record ∈ records, wanted record = false → l.enabled record.target record.level = false) :
    (records.filter wanted).foldl write l = records.foldl write l := by
  induction records generalizing l with
  | nil => rfl
  | cons record rest ih =>
    have later : (rest.filter wanted).foldl write (l.write record) =
        rest.foldl write (l.write record) :=
      ih _ fun r hr unwanted => h r (List.mem_cons_of_mem _ hr) unwanted
    cases hw : wanted record with
    | true =>
      rw [List.filter_cons_of_pos hw]
      exact later
    | false =>
      rw [List.filter_cons_of_neg (by simp [hw]), List.foldl_cons, ← later,
        write_of_disabled (h record (List.mem_cons_self ..) hw)]

end Log.Logging

namespace Host

variable {h h' : Host} {records : List Record}

theorem Logs.drop_traces (logs : h.Logs h' records) (off : h.tracing = false)
    (lines : ∀ record ∈ records, record.isTrace → record.level = .trace) :
    h.Logs h' (records.filter fun record => !record.isTrace) := by
  obtain ⟨quiet, disabled⟩ := Bool.or_eq_false_iff.mp off
  refine ⟨logs.environment, logs.threshold, logs.limit, ?_, ?_⟩
  · have unrecorded : h.recorded = none := by simpa using quiet
    rw [logs.recorded, log_all_recorded, log_all_recorded, unrecorded]
    rfl
  · rw [logs.logging, log_all_logging, log_all_logging, quiet, Logging.write_all_filter]
    intro record member unwanted
    have traced : record.isTrace = true := by simpa using unwanted
    rw [lines record member traced, beq_iff_eq.mp traced]
    exact disabled

end Host

namespace Session

def matchLines (s : Session) (registry : RegistryName) (query object : Document) : List String :=
  ((s.current? registry).map fun r => (r.run s.host.limit query object).lines).getD []

variable (s : Session) (registry : RegistryName)

theorem SameRegistries.match_lines {s t : Session} (same : s.SameRegistries t)
    (limit : t.host.limit = s.host.limit) : t.matchLines = s.matchLines := by
  funext registry query object
  rw [matchLines, same registry, limit]
  rfl

/-- What one session hands to the log on the way to another one, as far as lines are concerned. -/
def HandsOver (s t : Session) (lines : List String) : Prop :=
  ∃ records, s.host.Logs t.host records ∧ records.filter Record.isTrace = lines.map traceRecord

namespace HandsOver

variable {s t u : Session} {lines more : List String}

theorem trans (first : s.HandsOver t lines) (second : t.HandsOver u more) :
    s.HandsOver u (lines ++ more) := by
  obtain ⟨before, logs, traced⟩ := first
  obtain ⟨after, logs', traced'⟩ := second
  refine ⟨before ++ after, logs.trans logs', ?_⟩
  rw [List.filter_append, traced, traced', List.map_append]

theorem congr {s' t' : Session} (h : s.HandsOver t lines)
    (before : ∃ c, s'.host = { s.host with captured := c })
    (after : ∃ c, t'.host = { t.host with captured := c }) : s'.HandsOver t' lines := by
  obtain ⟨records, logs, traced⟩ := h
  obtain ⟨c, hs⟩ := before
  obtain ⟨d, ht⟩ := after
  refine ⟨records, ?_, traced⟩
  rw [hs, ht]
  refine ⟨logs.environment, logs.threshold, logs.limit, ?_, ?_⟩
  · rw [Host.log_all_recorded]
    exact logs.recorded.trans (Host.log_all_recorded ..)
  · rw [Host.log_all_logging]
    exact logs.logging.trans (Host.log_all_logging ..)

end HandsOver

theorem HandsOver.limit {s t : Session} {lines : List String} (h : s.HandsOver t lines) :
    t.host.limit = s.host.limit := by
  obtain ⟨_, logs, -⟩ := h
  exact logs.limit

theorem find_captured : (s.find registry).2.host.captured = s.host.captured := by
  cases registry with
  | own name => rfl
  | shared => exact s.host.use_shared_captured

theorem find_hands_over : s.HandsOver (s.find registry).2 [] := by
  cases registry with
  | own name => exact ⟨[], .refl _, rfl⟩
  | shared =>
    refine ⟨s.host.useRecords, s.host.use_shared_logs, ?_⟩
    rw [Host.useRecords]
    split
    · rfl
    · exact builtin_records_trace

section Matches

variable (query object : Document) (elapsed : UInt64)

theorem decide_captured : (s.decide registry query object elapsed).2.host.captured =
    s.host.captured.map (· ++ s.matchLines registry query object) := by
  have limit := (s.find_hands_over registry).limit
  rw [← s.find_captured registry, matchLines, ← find_registry, ← limit, Session.decide,
    Session.move]
  split
  case h_1 r t found =>
    rw [found]
    exact t.host.decide_captured r query object elapsed
  case h_2 t found =>
    rw [found]
    simp

theorem decide_hands_over : s.HandsOver (s.decide registry query object elapsed).2
    (s.matchLines registry query object) := by
  have used := s.find_hands_over registry
  rw [matchLines, ← find_registry, ← used.limit, Session.decide, Session.move]
  split
  case h_1 r t found =>
    rw [found] at used ⊢
    exact used.trans ⟨_, t.host.decide_logs r query object elapsed, match_records_trace ..⟩
  case h_2 t found =>
    rw [found] at used ⊢
    exact used

end Matches

end Session

namespace Program

open Session

structure Runs (p : Program) (s : Session) : Prop where
  registries : s.SameRegistries (p.run s).2
  captures : (p.run s).1.captures = p.shares s.matchLines
  notes : (p.run s).1.notes = p.notes s.host.isCapturing
  captured : (p.run s).2.host.captured = s.host.captured.map (· ++ p.own s.matchLines)
  logged : s.HandsOver (p.run s).2 (p.emitted s.matchLines)

theorem Runs.is_capturing {p : Program} {s : Session} (h : p.Runs s) :
    (p.run s).2.host.isCapturing = s.host.isCapturing := by
  rw [Host.isCapturing, h.captured, Option.isSome_map, Host.isCapturing]

theorem runs (p : Program) (s : Session) : p.Runs s := by
  induction p generalizing s with
  | nothing => exact ⟨fun _ => rfl, rfl, rfl, by simp [run, own], ⟨[], .refl _, rfl⟩⟩
  | ask => exact ⟨fun _ => rfl, rfl, rfl, by simp [run, own], ⟨[], .refl _, rfl⟩⟩
  | emit line =>
    exact ⟨on_host_keeps (s.host.emit_shared line), rfl, rfl, s.host.emit_captured line,
      ⟨_, s.host.emit_logs line, rfl⟩⟩
  | decide registry query object elapsed =>
    refine ⟨?_, rfl, rfl, ?_, ?_⟩
    · exact s.move_keeps_registries registry _ _
        fun host r => host.decide_shared r query object elapsed
    · exact s.decide_captured registry query object elapsed
    · exact s.decide_hands_over registry query object elapsed
  | sequence first second ihf ihs =>
    have begun := ihf s
    have ended := ihs (first.run s).2
    -- matches of the second part find the registries of the first one
    have same := begun.registries.match_lines begun.logged.limit
    refine ⟨?_, ?_, ?_, ?_, ?_⟩
    · intro m
      exact (ended.registries m).trans (begun.registries m)
    · rw [run, shares, ← begun.captures, ← same, ← ended.captures]
    · rw [run, notes, ← begun.notes, ← begun.is_capturing, ← ended.notes]
    · rw [run, own, ended.captured, same, begun.captured, Option.map_map]
      simp [Function.comp_def]
    · have logged := ended.logged
      rw [same] at logged
      exact begun.logged.trans logged
  | capture body ih =>
    -- around the body nothing changes but the lines that are being captured
    have inner := ih (s.onHost Host.beginCapture)
    have same : s.SameRegistries (s.onHost Host.beginCapture) := on_host_keeps rfl
    have lines := same.match_lines rfl
    refine ⟨?_, ?_, ?_, ?_, ?_⟩
    · intro m
      refine Eq.trans ?_ ((inner.registries m).trans (same m))
      cases m <;> rfl
    · have own : (body.run (s.onHost Host.beginCapture)).2.host.captured =
          some (body.own s.matchLines) := by
        rw [inner.captured, lines]
        rfl
      rw [shares, ← lines, ← inner.captures, lines]
      exact congrArg (fun c : Option (List String) => c.getD [] :: _) own
    · exact inner.notes
    · rw [own]
      simp [run, Session.capturing, Host.endCapture]
    · have logged := inner.logged
      rw [lines] at logged
      exact logged.congr ⟨s.host.captured, rfl⟩ ⟨_, rfl⟩
  | thread body ih =>
    have inner := ih (s.onHost Host.enterThread)
    have same : s.SameRegistries (s.onHost Host.enterThread) := on_host_keeps rfl
    have lines := same.match_lines rfl
    refine ⟨?_, ?_, ?_, ?_, ?_⟩
    · intro m
      refine Eq.trans ?_ ((inner.registries m).trans (same m))
      cases m <;> rfl
    · have captures := inner.captures
      rw [lines] at captures
      exact captures
    · exact inner.notes
    · rw [own]
      simp [run, Session.onThread, Session.onHost, Host.leaveThread]
    · have logged := inner.logged
      rw [lines] at logged
      exact logged.congr ⟨s.host.captured, rfl⟩ ⟨_, rfl⟩

end Program

/-- Every capture returns the lines of its own body, those of captures and threads inside it apart,
and the capture that was running goes on with what it had. No line is lost and none is captured
twice; whether something is captured is known all along. The log gets every line once if it takes
traces at all, and none otherwise. -/
theorem captures_partition_lines (p : Program) (s : Session) :
    let ended := p.run s
    let lines := s.matchLines
    ended.1.captures = p.shares lines ∧
    ended.2.host.captured = s.host.captured.map (· ++ p.own lines) ∧
    (p.emitted lines).Perm ((p.shares lines).flatten ++ (p.own lines ++ p.loose lines)) ∧
    ended.1.notes = p.notes s.host.isCapturing ∧
    ended.2.host.isCapturing = s.host.isCapturing ∧
    ∃ records, s.host.Logs ended.2.host records ∧
      records.filter Record.isTrace =
        if s.host.tracing then (p.emitted lines).map traceRecord else [] := by
  intro ended lines
  have runs := p.runs s
  refine ⟨runs.captures, runs.captured, p.emitted_partition lines, runs.notes, runs.is_capturing,
    ?_⟩
  obtain ⟨records, logs, traced⟩ := runs.logged
  cases on : s.host.tracing with
  | true => exact ⟨records, logs, traced⟩
  | false =>
    -- lines are the only records of their target, and all of them are dropped
    refine ⟨_, logs.drop_traces on fun record member trace => ?_, ?_⟩
    · have kept : record ∈ (p.emitted s.matchLines).map traceRecord := by
        rw [← traced]
        exact List.mem_filter.mpr ⟨member, trace⟩
      obtain ⟨line, -, rfl⟩ := List.mem_map.mp kept
      rfl
    · rw [List.filter_filter]
      simp

example : ((Program.capture (.sequence (.emit "before") (.sequence
    (.thread (.emit "elsewhere")) (.sequence (.capture (.emit "within")) (.emit "after"))))).run
    .fresh).1.captures = [["before", "after"], ["within"]] := rfl

end Criteria
