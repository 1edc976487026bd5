import Criteria.Proofs.LogRouting
import Criteria.Proofs.RegistryLineage

/-!
# Configuring more than once

Logging is configured once: every call after one that worked fails. A call that fails leaves the
loggers and what is in their files alone. If it got as far as its own files it moves the ceiling,
though, above which no record is routed any more. So a run with failing calls logs what the run
without them logs, up to the ceiling of the last such call.
-/

namespace Criteria

open Log

inductive Occurrence where
  | call (c : Call)
  | start
  | log (record : Record)
  | decide (registry : RegistryName) (query object : Document) (elapsed : UInt64)

namespace Occurrence

variable (environment : List (String × String))

def settings? : Occurrence → Option Settings
  | call c => some (c.settings environment)
  | start => some (.ofEnvironment environment)
  | log _ => none
  | decide .. => none

def isQuiet : Occurrence → Bool
  | call _ => false
  | start => false
  | log _ => true
  | decide .. => true

def isStart : Occurrence → Bool
  | start => true
  | _ => false

theorem settings_of_not_quiet {o : Occurrence} (h : o.isQuiet = false) :
    ∃ settings, o.settings? environment = some settings := by
  cases o with
  | call c => exact ⟨_, rfl⟩
  | start => exact ⟨_, rfl⟩
  | log record => cases h
  | decide registry query object elapsed => cases h

theorem settings_of_quiet {o : Occurrence} (h : o.isQuiet = true) :
    o.settings? environment = none := by
  cases o with
  | call c => cases h
  | start => cases h
  | log record => rfl
  | decide registry query object elapsed => rfl

end Occurrence

def quiet (history : List Occurrence) : List Occurrence := history.filter Occurrence.isQuiet

namespace Session

def happen (s : Session) : Occurrence → Answer × Session
  | .call c => s.setUp fun h => h.call c
  | .start => s.step .start
  | .log record => s.step (.log record.level record.target record.message)
  | .decide registry query object elapsed => s.decide registry query object elapsed

def pass (s : Session) (history : List Occurrence) : Session :=
  history.foldl (fun s o => (s.happen o).2) s

def contents (s : Session) (place : Place) : List Record := s.host.logging.files.contents place

def opens (s : Session) (settings : Settings) : Bool :=
  (Logging.prepare s.host.environment settings s.host.logging.files).2

end Session

def Log.Settings.ceiling (settings : Settings) : Filter :=
  if settings.traces then some .trace else .ofSetting settings.level

def Session.lastCeiling (s : Session) (ceiling : Filter) : List Occurrence → Filter
  | [] => ceiling
  | o :: rest =>
    let reached := (o.settings? s.host.environment).filter s.opens
    (s.happen o).2.lastCeiling ((reached.map Settings.ceiling).getD ceiling) rest

theorem most_verbose_of_settings (environment : List (String × String)) (s : Settings) :
    (Logging.routingOf environment s).mostVerbose = s.ceiling := by
  simp only [Logging.routingOf, Routing.mostVerbose, Settings.ceiling, List.foldl_cons,
    List.foldl_nil]
  generalize Filter.ofSetting s.level = level
  cases s.traces with
  | true => rcases level with _ | (_ | _ | _ | _ | _) <;> rfl
  | false => rcases level with _ | (_ | _ | _ | _ | _) <;> rfl

theorem Log.Logging.share_congr {l k : Logging} (installed : l.installed = k.installed)
    (ceiling : l.ceiling = k.ceiling) (place : Place) (records : List Record) :
    l.share place records = k.share place records := by
  have same (record : Record) : l.destinations record = k.destinations record := by
    rw [destinations, destinations, admits, admits, installed, ceiling]
  simp only [share, same]

/-- Below a lower ceiling the same records reach a file, up to the ceiling. -/
theorem Log.Logging.share_under_ceiling {l k : Logging} {r : Routing}
    (installed : l.installed = some r) (installed' : k.installed = some r)
    (top : k.ceiling = r.mostVerbose) (place : Place) (records : List Record) :
    l.share place records =
      (k.share place records).filter fun record => l.ceiling.admits record.level := by
  rw [share, share, List.filter_flatMap]
  congr 1
  funext record
  rw [destinations_of_configured installed' top, List.filter_replicate, destinations, installed]
  split
  case isTrue admitted =>
    rw [admits] at admitted
    rw [admitted]
    rfl
  case isFalse dropped =>
    rw [admits] at dropped
    rw [if_neg dropped]
    rfl

namespace Host

structure Steady (h : Host) : Prop where
  unrecorded : h.recorded = none
  ready : h.logging.Ready

namespace Logs

variable {h h' : Host} {records : List Record}

theorem written (logs : h.Logs h' records) (steady : h.Steady) :
    h'.logging = records.foldl Logging.write h.logging := by
  rw [logs.logging, log_all_logging, steady.unrecorded]
  rfl

theorem installed (logs : h.Logs h' records) (steady : h.Steady) :
    h'.logging.installed = h.logging.installed := by
  rw [logs.written steady, Logging.write_all_installed]

theorem ceiling (logs : h.Logs h' records) (steady : h.Steady) :
    h'.logging.ceiling = h.logging.ceiling := by
  rw [logs.written steady, Logging.write_all_ceiling]

theorem contents (logs : h.Logs h' records) (steady : h.Steady) (place : Place) :
    h'.logging.files.contents place =
      h.logging.files.contents place ++ h.logging.share place records := by
  rw [logs.written steady, steady.ready.write_all_contents]

theorem steady (logs : h.Logs h' records) (before : h.Steady) : h'.Steady := by
  refine ⟨?_, ?_⟩
  · rw [logs.recorded, log_all_recorded, before.unrecorded]
    rfl
  · rw [logs.written before]
    exact before.ready.write_all records

end Logs

/-- Two hosts that log the same, apart from their ceilings. -/
structure Alike (h k : Host) : Prop where
  environment : k.environment = h.environment
  threshold : k.threshold = h.threshold
  limit : k.limit = h.limit
  shared : k.shared = h.shared
  installed : k.logging.installed = h.logging.installed
  left : h.Steady
  right : k.Steady

namespace Alike

variable {h k h' k' : Host} {records : List Record}

theorem refl (steady : h.Steady) : h.Alike h := ⟨rfl, rfl, rfl, rfl, rfl, steady, steady⟩

theorem logs (alike : h.Alike k) (left : h.Logs h' records) (right : k.Logs k' records)
    (shared : k'.shared = h'.shared) : h'.Alike k' where
  environment := by rw [left.environment, right.environment, alike.environment]
  threshold := by rw [left.threshold, right.threshold, alike.threshold]
  limit := by rw [left.limit, right.limit, alike.limit]
  shared := shared
  installed := by rw [left.installed alike.left, right.installed alike.right, alike.installed]
  left := left.steady alike.left
  right := right.steady alike.right

end Alike

/-- Both hosts hand the same records to the log on their ways to two others. -/
structure Together (h k h' k' : Host) (records : List Record) : Prop where
  left : h.Logs h' records
  right : k.Logs k' records
  alike : h'.Alike k'

namespace Together

variable {h k h' k' : Host} {records more : List Record}

theorem refl (alike : h.Alike k) : Together h k h k [] := ⟨.refl h, .refl k, alike⟩

theorem trans {h'' k'' : Host} (first : Together h k h' k' records)
    (second : Together h' k' h'' k'' more) : Together h k h'' k'' (records ++ more) :=
  ⟨first.left.trans second.left, first.right.trans second.right, second.alike⟩

theorem log (alike : h.Alike k) (record : Record) :
    Together h k (h.log record.level record.target record.message)
      (k.log record.level record.target record.message) [record] := by
  have left := h.log_logs record.level record.target record.message
  have right := k.log_logs record.level record.target record.message
  refine ⟨left, right, alike.logs left right ?_⟩
  rw [log_shared, log_shared, alike.shared]

theorem use_shared (alike : h.Alike k) :
    Together h k h.useShared.2 k.useShared.2 h.useRecords := by
  have right := k.use_shared_logs
  rw [useRecords, alike.shared] at right
  refine ⟨h.use_shared_logs, right, alike.logs h.use_shared_logs right ?_⟩
  rw [use_shared_shared, use_shared_shared, alike.shared]

theorem decide (alike : h.Alike k) (r : Registry) (query object : Document) (elapsed : UInt64) :
    Together h k (h.decide r query object elapsed).2 (k.decide r query object elapsed).2
      (matchRecords h.threshold h.limit r query object elapsed) := by
  have left := h.decide_logs r query object elapsed
  have right := k.decide_logs r query object elapsed
  rw [alike.threshold, alike.limit] at right
  refine ⟨left, right, alike.logs left right ?_⟩
  rw [decide_shared, decide_shared, alike.shared]

end Together

def reportShared (h : Host) : Host :=
  if h.admits .info then
    h.useShared.2.log .info evaluationTarget
      ("operators: " ++ Quoted.encodeList h.useShared.1.names)
  else h

theorem start_eq (h : Host) : h.start =
    ((h.call .environment).1,
      if (h.call .environment).1 then (h.call .environment).2.reportShared
      else (h.call .environment).2) := by
  unfold start
  split
  case h_1 k done =>
    have called : h.call .environment = (true, k) := done
    rw [called]
    simp only [if_true, reportShared]
    split <;> rfl
  case h_2 k failed =>
    have called : h.call .environment = (false, k) := failed
    rw [called]
    rfl

theorem report_shared_together {h k : Host} (alike : h.Alike k)
    (ceiling : k.logging.ceiling = h.logging.ceiling) :
    ∃ records, Together h k h.reportShared k.reportShared records := by
  have same : k.admits .info = h.admits .info := by
    rw [admits, admits, alike.left.unrecorded, alike.right.unrecorded, Logging.admits, ceiling]
    rfl
  have names : k.useShared.1 = h.useShared.1 := by
    rw [use_shared_registry, use_shared_registry, alike.shared]
  unfold reportShared
  rw [same, names]
  split
  · have used := Together.use_shared alike
    exact ⟨_, used.trans (.log used.alike ⟨.info, evaluationTarget, _⟩)⟩
  · exact ⟨[], .refl alike⟩

end Host

namespace Session

structure Alike (s t : Session) : Prop where
  registries : t.registries = s.registries
  hosts : s.host.Alike t.host

section Quiet

variable {s t : Session}

theorem find_together (alike : s.Alike t) (registry : RegistryName) :
    (t.find registry).1 = (s.find registry).1 ∧ (s.find registry).2.Alike (t.find registry).2 ∧
    ∃ records,
      s.host.Together t.host (s.find registry).2.host (t.find registry).2.host records := by
  cases registry with
  | own name =>
    have same : t.registries.lookup name = s.registries.lookup name :=
      congrArg (List.lookup name) alike.registries
    exact ⟨same, alike, [], .refl alike.hosts⟩
  | shared =>
    have used := Host.Together.use_shared alike.hosts
    refine ⟨?_, ⟨alike.registries, used.alike⟩, _, used⟩
    rw [find_registry, find_registry, current?, current?, alike.hosts.shared]

theorem happen_quiet (alike : s.Alike t) {o : Occurrence} (h : o.isQuiet = true) :
    (s.happen o).2.Alike (t.happen o).2 ∧
    ∃ records, s.host.Together t.host (s.happen o).2.host (t.happen o).2.host records := by
  cases o with
  | call c => cases h
  | start => cases h
  | log record =>
    have logged := Host.Together.log alike.hosts record
    exact ⟨⟨alike.registries, logged.alike⟩, _, logged⟩
  | decide registry query object elapsed =>
    obtain ⟨which, found, records, together⟩ := find_together alike registry
    simp only [happen, Session.decide, Session.move]
    cases hs : s.find registry with
    | mk r s' =>
      cases ht : t.find registry with
      | mk r' t' =>
        rw [hs, ht] at which found together
        obtain rfl : r' = r := which
        cases r' with
        | none => exact ⟨found, records, together⟩
        | some r =>
          have decided := Host.Together.decide found.hosts r query object elapsed
          exact ⟨⟨found.registries, decided.alike⟩, _, together.trans decided⟩

theorem pass_quiet (alike : s.Alike t) (history : List Occurrence) :
    (s.pass (quiet history)).Alike (t.pass (quiet history)) ∧
    ∃ records, s.host.Together t.host (s.pass (quiet history)).host (t.pass (quiet history)).host
      records := by
  induction history generalizing s t with
  | nil => exact ⟨alike, [], .refl alike.hosts⟩
  | cons o rest ih =>
    rw [quiet, List.filter_cons]
    split
    case isTrue h =>
      obtain ⟨first, records, together⟩ := happen_quiet alike h
      obtain ⟨last, more, later⟩ := ih first
      exact ⟨last, _, together.trans later⟩
    case isFalse => exact ih alike

end Quiet

section Calls

variable {s t : Session} {o : Occurrence} {settings : Settings}

def configured (s : Session) (settings : Settings) : Session :=
  s.onHost fun h => { h with logging := (h.logging.configure h.environment settings).2 }

def works (s : Session) (settings : Settings) : Bool :=
  (s.host.logging.configure s.host.environment settings).1

theorem happen_call (asked : o.settings? s.host.environment = some settings) :
    s.happen o = (.done (s.works settings),
      if s.works settings && o.isStart then (s.configured settings).onHost Host.reportShared
      else s.configured settings) := by
  cases o with
  | call c =>
    cases asked
    simp only [Occurrence.isStart, Bool.and_false, Bool.false_eq_true, if_false]
    rfl
  | start =>
    cases asked
    have called : s.host.call .environment =
        (s.works (.ofEnvironment s.host.environment),
          (s.configured (.ofEnvironment s.host.environment)).host) := rfl
    simp only [happen, step, setUp, Host.start_eq, Occurrence.isStart, Bool.and_true, called]
    split <;> rfl
  | log record => cases asked
  | decide registry query object elapsed => cases asked

section Configured

variable (s : Session) (settings : Settings)

theorem works_iff : s.works settings = true ↔
    s.opens settings = true ∧ s.host.logging.installed = none := by
  rw [works, Logging.configure_done, Bool.and_eq_true, Option.isNone_iff_eq_none]
  rfl

variable {s} in
theorem fails_of_installed (installed : s.host.logging.installed ≠ none) :
    s.works settings = false := by
  rw [Bool.eq_false_iff]
  intro works
  exact installed ((s.works_iff settings).mp works).2

theorem configured_installed : (s.configured settings).host.logging.installed =
    if s.works settings then some (Logging.routingOf s.host.environment settings)
    else s.host.logging.installed :=
  Logging.configure_installed ..

theorem configured_ceiling : (s.configured settings).host.logging.ceiling =
    if s.opens settings then settings.ceiling else s.host.logging.ceiling := by
  rw [← most_verbose_of_settings s.host.environment settings]
  exact Logging.configure_ceiling ..

theorem configured_contents (place : Place) :
    (s.configured settings).contents place = s.contents place := by
  have grown := (Logging.prepare_grows s.host.environment settings s.host.logging.files).contents
    place
  rw [← Logging.configure_files] at grown
  exact grown

variable {s}

theorem configured_steady (steady : s.host.Steady) : (s.configured settings).host.Steady :=
  ⟨steady.unrecorded, steady.ready.configure _ _⟩

end Configured

/-- A call that fails leaves everything but the ceiling and files without records. -/
theorem happen_failed (alike : s.Alike t) (asked : o.settings? s.host.environment = some settings)
    (failed : s.works settings = false) :
    (s.happen o).1 = .done false ∧ (s.happen o).2.Alike t ∧
      ∀ place, (s.happen o).2.contents place = s.contents place := by
  have happened := happen_call asked
  rw [failed, Bool.false_and, if_neg Bool.false_ne_true] at happened
  rw [happened]
  have installed := s.configured_installed settings
  rw [failed, if_neg Bool.false_ne_true] at installed
  have hosts := alike.hosts
  refine ⟨rfl, ⟨alike.registries, ?_⟩, s.configured_contents settings⟩
  exact ⟨hosts.environment, hosts.threshold, hosts.limit, hosts.shared,
    hosts.installed.trans installed.symm,
    configured_steady settings hosts.left, hosts.right⟩

theorem happen_worked (alike : s.Alike t) (asked : o.settings? s.host.environment = some settings)
    (works : s.works settings = true) (works' : t.works settings = true) :
    (s.happen o).2.Alike (t.happen o).2 ∧
    ∃ records, (s.configured settings).host.Together (t.configured settings).host
      (s.happen o).2.host (t.happen o).2.host records := by
  have asked' : o.settings? t.host.environment = some settings := by
    rw [alike.hosts.environment, asked]
  have opened := (s.works_iff settings).mp works
  have opened' := (t.works_iff settings).mp works'
  have configured : (s.configured settings).Alike (t.configured settings) := by
    have hosts := alike.hosts
    refine ⟨alike.registries, hosts.environment, hosts.threshold, hosts.limit, hosts.shared, ?_,
      configured_steady settings hosts.left, configured_steady settings hosts.right⟩
    rw [configured_installed, configured_installed, works, works', alike.hosts.environment]
    rfl
  have ceiling : (t.configured settings).host.logging.ceiling =
      (s.configured settings).host.logging.ceiling := by
    rw [configured_ceiling, configured_ceiling, opened.1, opened'.1]
    rfl
  rw [happen_call asked, happen_call asked', works, works']
  cases o.isStart with
  | false => exact ⟨configured, [], .refl configured.hosts⟩
  | true =>
    obtain ⟨records, reported⟩ := Host.report_shared_together configured.hosts ceiling
    exact ⟨⟨configured.registries, reported.alike⟩, records, reported⟩

end Calls

section Run

variable {s : Session} (steady : s.host.Steady)

include steady

theorem happen_steady (o : Occurrence) : (s.happen o).2.host.Steady := by
  have alike : s.Alike s := ⟨rfl, .refl steady⟩
  cases h : o.isQuiet with
  | true => exact (happen_quiet alike h).1.hosts.left
  | false =>
    obtain ⟨settings, asked⟩ := Occurrence.settings_of_not_quiet s.host.environment h
    cases works : s.works settings with
    | true => exact (happen_worked alike asked works works).1.hosts.left
    | false => exact (happen_failed alike asked works).2.1.hosts.left

theorem call_logs {o : Occurrence} {settings : Settings}
    (asked : o.settings? s.host.environment = some settings) :
    ∃ records, (s.configured settings).host.Logs (s.happen o).2.host records := by
  cases works : s.works settings with
  | true =>
    obtain ⟨-, records, together⟩ := happen_worked ⟨rfl, .refl steady⟩ asked works works
    exact ⟨records, together.left⟩
  | false =>
    rw [happen_call asked, works]
    exact ⟨[], .refl _⟩

theorem call_installed {o : Occurrence} {settings : Settings}
    (asked : o.settings? s.host.environment = some settings) :
    (s.happen o).2.host.logging.installed =
      if s.works settings then some (Logging.routingOf s.host.environment settings)
      else s.host.logging.installed := by
  obtain ⟨records, logs⟩ := call_logs steady asked
  rw [logs.installed (configured_steady settings steady), configured_installed]

theorem failed_of_kept {o : Occurrence} {settings : Settings}
    (asked : o.settings? s.host.environment = some settings)
    (kept : (s.happen o).2.host.logging.installed = s.host.logging.installed) :
    s.works settings = false := by
  rw [Bool.eq_false_iff]
  intro works
  rw [call_installed steady asked, if_pos works, ((s.works_iff settings).mp works).2] at kept
  cases kept

theorem happen_environment (o : Occurrence) :
    (s.happen o).2.host.environment = s.host.environment := by
  cases h : o.isQuiet with
  | true =>
    obtain ⟨-, records, together⟩ := happen_quiet ⟨rfl, .refl steady⟩ h
    exact together.left.environment
  | false =>
    obtain ⟨settings, asked⟩ := Occurrence.settings_of_not_quiet s.host.environment h
    obtain ⟨records, logs⟩ := call_logs steady asked
    exact logs.environment

theorem pass_environment (history : List Occurrence) :
    (s.pass history).host.environment = s.host.environment := by
  induction history generalizing s with
  | nil => rfl
  | cons o rest ih => exact (ih (happen_steady steady o)).trans (happen_environment steady o)

theorem happen_installed (o : Occurrence) (installed : s.host.logging.installed ≠ none) :
    (s.happen o).2.host.logging.installed = s.host.logging.installed := by
  have alike : s.Alike s := ⟨rfl, .refl steady⟩
  cases h : o.isQuiet with
  | true =>
    obtain ⟨-, records, together⟩ := happen_quiet alike h
    exact together.left.installed steady
  | false =>
    obtain ⟨settings, asked⟩ := Occurrence.settings_of_not_quiet s.host.environment h
    rw [call_installed steady asked, fails_of_installed settings installed]
    rfl

theorem pass_installed (history : List Occurrence) (installed : s.host.logging.installed ≠ none) :
    (s.pass history).host.logging.installed = s.host.logging.installed := by
  induction history generalizing s with
  | nil => rfl
  | cons o rest ih =>
    have same := happen_installed steady o installed
    have later := ih (happen_steady steady o) (by rwa [same])
    exact later.trans same

theorem happen_ceiling (o : Occurrence) : (s.happen o).2.host.logging.ceiling =
    (((o.settings? s.host.environment).filter s.opens).map Settings.ceiling).getD
      s.host.logging.ceiling := by
  have alike : s.Alike s := ⟨rfl, .refl steady⟩
  cases h : o.isQuiet with
  | true =>
    obtain ⟨-, records, together⟩ := happen_quiet alike h
    rw [together.left.ceiling steady, Occurrence.settings_of_quiet _ h]
    rfl
  | false =>
    obtain ⟨settings, asked⟩ := Occurrence.settings_of_not_quiet s.host.environment h
    obtain ⟨records, logs⟩ := call_logs steady asked
    rw [logs.ceiling (configured_steady settings steady), configured_ceiling, asked,
      Option.filter_some]
    split <;> rfl

theorem pass_ceiling (history : List Occurrence) : (s.pass history).host.logging.ceiling =
    s.lastCeiling s.host.logging.ceiling history := by
  induction history generalizing s with
  | nil => rfl
  | cons o rest ih =>
    rw [lastCeiling, ← happen_ceiling steady o]
    exact ih (happen_steady steady o)

/-- Before logging is configured no file gets a record. -/
theorem pass_contents (history : List Occurrence)
    (unconfigured : (s.pass history).host.logging.installed = none) (place : Place) :
    (s.pass history).contents place = s.contents place := by
  induction history generalizing s with
  | nil => rfl
  | cons o rest ih =>
    have later := happen_steady steady o
    -- loggers never go away, so none are there after the first occurrence nor before it
    have still : (s.happen o).2.host.logging.installed = none := by
      by_contra installed
      exact installed ((pass_installed later rest installed).symm.trans unconfigured)
    have before : s.host.logging.installed = none := by
      by_contra installed
      exact installed ((happen_installed steady o installed).symm.trans still)
    refine (ih later unconfigured).trans ?_
    have alike : s.Alike s := ⟨rfl, .refl steady⟩
    cases h : o.isQuiet with
    | true =>
      obtain ⟨-, records, together⟩ := happen_quiet alike h
      have written := together.left.written steady
      rw [Logging.write_all_of_not_installed before] at written
      rw [contents, written, contents]
    | false =>
      obtain ⟨settings, asked⟩ := Occurrence.settings_of_not_quiet s.host.environment h
      have failed := failed_of_kept steady asked (still.trans before.symm)
      exact (happen_failed alike asked failed).2.2 place

end Run

section Runs

variable {s t : Session}

theorem pass_alike (alike : s.Alike t) (history : List Occurrence)
    (same : (s.pass history).host.logging.installed = s.host.logging.installed) :
    (s.pass history).Alike (t.pass (quiet history)) := by
  induction history generalizing s t with
  | nil => exact alike
  | cons o rest ih =>
    have steady := alike.hosts.left
    have later := happen_steady steady o
    -- once loggers are installed they stay, so the first occurrence has installed none
    have kept : (s.happen o).2.host.logging.installed = s.host.logging.installed := by
      by_cases installed : (s.happen o).2.host.logging.installed = none
      · by_contra changed
        have before : s.host.logging.installed ≠ none := fun eq => changed (installed.trans eq.symm)
        exact changed (happen_installed steady o before)
      · exact (pass_installed later rest installed).symm.trans same
    have rest_same : ((s.happen o).2.pass rest).host.logging.installed =
        (s.happen o).2.host.logging.installed := same.trans kept.symm
    rw [quiet, List.filter_cons]
    cases h : o.isQuiet with
    | true => exact ih (happen_quiet alike h).1 rest_same
    | false =>
      obtain ⟨settings, asked⟩ := Occurrence.settings_of_not_quiet s.host.environment h
      have failed := failed_of_kept steady asked kept
      exact ih (happen_failed alike asked failed).2.1 rest_same

structure Begun (ceiling : Filter) (s t : Session) : Prop where
  alike : s.Alike t
  installed : ∃ r, s.host.logging.installed = some r ∧ r.mostVerbose = ceiling
  left : s.host.logging.ceiling = ceiling
  right : t.host.logging.ceiling = ceiling
  contents : ∀ place, s.contents place = t.contents place

theorem happen_first (alike : s.Alike t) {o : Occurrence} {settings : Settings}
    (asked : o.settings? s.host.environment = some settings) (works : s.works settings = true)
    (works' : t.works settings = true) (same : ∀ place, s.contents place = t.contents place) :
    Begun settings.ceiling (s.happen o).2 (t.happen o).2 := by
  obtain ⟨after, records, together⟩ := happen_worked alike asked works works'
  have steady := configured_steady settings alike.hosts.left
  have steady' := configured_steady settings alike.hosts.right
  have installed := s.configured_installed settings
  have installed' := t.configured_installed settings
  have ceiling := s.configured_ceiling settings
  have ceiling' := t.configured_ceiling settings
  rw [if_pos works] at installed
  rw [if_pos works', alike.hosts.environment] at installed'
  rw [if_pos ((s.works_iff settings).mp works).1] at ceiling
  rw [if_pos ((t.works_iff settings).mp works').1] at ceiling'
  refine ⟨after, ⟨_, ?_, most_verbose_of_settings s.host.environment settings⟩, ?_, ?_,
    fun place => ?_⟩
  · rw [together.left.installed steady, installed]
  · rw [together.left.ceiling steady, ceiling]
  · rw [together.right.ceiling steady', ceiling']
  · have before : (s.configured settings).contents place =
        (t.configured settings).contents place := by
      rw [configured_contents, configured_contents, same]
    have share : (s.configured settings).host.logging.share place records =
        (t.configured settings).host.logging.share place records :=
      Logging.share_congr (installed.trans installed'.symm) (ceiling.trans ceiling'.symm) ..
    rw [contents, contents, together.left.contents steady, together.right.contents steady', share]
    exact congrArg (· ++ _) before

theorem quiet_answer (s : Session) {o : Occurrence} (h : (s.happen o).1 = .done true) :
    o.isQuiet = false := by
  cases o with
  | call c => rfl
  | start => rfl
  | log record => cases h
  | decide registry query object elapsed =>
    rw [happen, decide_answer] at h
    cases found : (s.find registry).1 with
    | none =>
      rw [found] at h
      cases h
    | some r =>
      rw [found, Option.map_some, Option.getD_some] at h
      cases result : (r.run s.host.limit query object).result <;> rw [result] at h <;> cases h

theorem works_of_answer {o : Occurrence} {settings : Settings}
    (asked : o.settings? s.host.environment = some settings)
    (h : (s.happen o).1 = .done true) : s.works settings = true := by
  rw [happen_call asked] at h
  injection h

end Runs

theorem pass_append (s : Session) (history more : List Occurrence) :
    s.pass (history ++ more) = (s.pass history).pass more := List.foldl_append

/-- The first call that works makes no difference between the runs with and without the calls that
failed before it. -/
theorem pass_first {s : Session} {earlier : List Occurrence} {first : Occurrence}
    {settings : Settings} (steady : s.host.Steady)
    (unconfigured : s.host.logging.installed = none)
    (asked : first.settings? s.host.environment = some settings)
    (worked : ((s.pass earlier).happen first).1 = .done true)
    (works : ((s.pass (quiet earlier)).happen first).1 = .done true) :
    Begun settings.ceiling (s.pass (earlier ++ [first])) (s.pass (quiet earlier ++ [first])) := by
  have asked_full : first.settings? (s.pass earlier).host.environment = some settings := by
    rw [pass_environment steady, asked]
  have asked_spared : first.settings? (s.pass (quiet earlier)).host.environment =
      some settings := by
    rw [pass_environment steady, asked]
  have works_full := works_of_answer asked_full worked
  have works_spared := works_of_answer asked_spared works
  -- nothing is installed before the call that works, so every earlier call has failed
  have uninstalled := ((works_iff _ settings).mp works_full).2
  have alike : (s.pass earlier).Alike (s.pass (quiet earlier)) :=
    pass_alike ⟨rfl, .refl steady⟩ earlier (uninstalled.trans unconfigured.symm)
  have same (place : Place) : (s.pass earlier).contents place =
      (s.pass (quiet earlier)).contents place := by
    rw [pass_contents steady earlier uninstalled,
      pass_contents steady _ (alike.hosts.installed.trans uninstalled)]
  rw [pass_append, pass_append]
  exact happen_first alike asked_full works_full works_spared same

end Session

/-- After a call that worked every further one fails, in any history. What is logged from then on
reaches the files that it reaches without the calls that fail, provided that the ceiling admits it,
which is that of the last call that got as far as its files. -/
theorem failed_calls_move_ceiling (s : Session) (earlier later : List Occurrence)
    (first : Occurrence) (unrecorded : s.host.recorded = none)
    (unconfigured : s.host.logging.installed = none)
    (worked : ((s.pass earlier).happen first).1 = .done true)
    (works : ((s.pass (quiet earlier)).happen first).1 = .done true) :
    let begun := s.pass (earlier ++ [first])
    let spared := s.pass (quiet earlier ++ [first])
    let full := begun.pass later
    let reduced := spared.pass (quiet later)
    (∀ o, o.isQuiet = false → (full.happen o).1 = .done false) ∧
    (∃ settings, first.settings? s.host.environment = some settings ∧
      full.host.logging.ceiling = begun.lastCeiling settings.ceiling later) ∧
    (∀ place, begun.contents place = spared.contents place) ∧
    ∀ (next : List Occurrence) (place : Place), ∃ added,
      (reduced.pass (quiet next)).contents place = reduced.contents place ++ added ∧
      (full.pass (quiet next)).contents place = full.contents place ++
        added.filter fun record => full.host.logging.ceiling.admits record.level := by
  intro begun spared full reduced
  have steady : s.host.Steady := ⟨unrecorded, Logging.ready_of_not_installed unconfigured⟩
  obtain ⟨settings, asked⟩ :=
    Occurrence.settings_of_not_quiet s.host.environment (Session.quiet_answer _ worked)
  have first_call : Session.Begun settings.ceiling begun spared :=
    Session.pass_first steady unconfigured asked worked works
  obtain ⟨r, installed, verbose⟩ := first_call.installed
  have hosts := first_call.alike.hosts
  -- from here on the loggers stay in both runs, and the ceiling stays in the one without failures
  have kept : full.host.logging.installed = some r := by
    rw [← installed]
    exact Session.pass_installed hosts.left later (by simp [installed])
  have alike : full.Alike reduced :=
    Session.pass_alike first_call.alike later (kept.trans installed.symm)
  have top : reduced.host.logging.ceiling = r.mostVerbose := by
    obtain ⟨-, records, together⟩ := Session.pass_quiet ⟨rfl, .refl hosts.right⟩ later
    rw [verbose, ← first_call.right]
    exact together.left.ceiling hosts.right
  refine ⟨fun o loud => ?_, ⟨settings, asked, ?_⟩, first_call.contents, fun next place => ?_⟩
  · obtain ⟨asks, ask⟩ := Occurrence.settings_of_not_quiet full.host.environment loud
    have failed := Session.fails_of_installed asks (by rw [kept]; exact nofun)
    exact (Session.happen_failed alike ask failed).1
  · rw [← first_call.left]
    exact Session.pass_ceiling hosts.left later
  · obtain ⟨-, records, together⟩ := Session.pass_quiet alike next
    have share := Logging.share_under_ceiling kept (alike.hosts.installed.trans kept) top place
      records
    refine ⟨reduced.host.logging.share place records, ?_, ?_⟩
    · exact together.right.contents alike.hosts.right place
    · rw [← share]
      exact together.left.contents alike.hosts.left place

theorem start_after_configuration_fails :
    let first : Occurrence := .call (.explicit { directory := some "logs" })
    let again : Occurrence := .call (.explicit { traces := true })
    Session.fresh.host.recorded = none ∧ Session.fresh.host.logging.installed = none ∧
      (Session.fresh.happen first).1 = .done true ∧
      ((Session.fresh.pass [first, again]).happen .start).1 = .done false := by
  intro first again
  have worked : (Session.fresh.happen first).1 = .done true := rfl
  refine ⟨rfl, rfl, worked, ?_⟩
  obtain ⟨fails, -⟩ := failed_calls_move_ceiling .fresh [] [again] first rfl rfl worked worked
  rw [List.nil_append, ← Session.pass_append, List.singleton_append] at fails
  exact fails .start rfl

/-- A call that fails makes a difference: it may lower the ceiling, so that a record is dropped that
the file gets otherwise, and it leaves directories behind without which a later call fails. -/
theorem failed_call_makes_difference :
    let first : Occurrence := .call (.explicit { directory := some "logs", level := some "info" })
    let again : Occurrence := .call (.explicit { directory := some "logs2", level := some "error" })
    let record : Record := ⟨.info, "app", "x"⟩
    let file : Place := .inside ["logs", "app.log"]
    let within : Occurrence := .call (.explicit { directory := some "a/b/." })
    let around : Occurrence := .call (.explicit { directory := some "a/." })
    ((Session.fresh.happen first).1 = .done true ∧
      ((Session.fresh.pass [first]).happen again).1 = .done false ∧
      (Session.fresh.pass [first, again, .log record]).contents file = [] ∧
      (Session.fresh.pass [first, .log record]).contents file = [record]) ∧
    (Session.fresh.happen within).1 = .done false ∧
      ((Session.fresh.pass [within]).happen around).1 = .done true ∧
      (Session.fresh.happen around).1 = .done false := by
  refine ⟨⟨rfl, rfl, ?_, ?_⟩, rfl, rfl, rfl⟩
  · decide +kernel
  · decide +kernel

end Criteria
