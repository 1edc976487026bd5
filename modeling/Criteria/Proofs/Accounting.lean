import Criteria.Proofs.Completions
import Criteria.Proofs.LogJournal
import Criteria.Session
import Mathlib.Algebra.GroupWithZero.Nat

/-!
# What the counters count

A history is a list of calls and of changes between them. Its ledger has one entry for each call to
a registry that is there: what the call comes to, whether that takes long, and how many clauses are
completed for it. After any history the counters hold the numbers of the ledger, as far as 64 bits
go.
-/

namespace Criteria

inductive Move where
  | decide (registry : RegistryName) (query object : Document) (micros : Nat)
  | evaluate (registry : RegistryName) (operator : String) (body : Value) (object : Document)
  | setThreshold (us : UInt64)
  | create (name : String) (source : Source)
  | register (registry : RegistryName) (name : String) (op : Operator)
  | unregister (registry : RegistryName) (name : String)
  | extend (registry : RegistryName) (name : String) (op : Operator) (into : String)
  | reset

def Move.threshold (before : UInt64) : Move → UInt64
  | .setThreshold us => us
  | _ => before

inductive Entry where
  | matched (outcome : Outcome) (slow : Bool) (completed : Nat)
  | givenUp (completed : Nat)
  | evaluated (completed : Nat)

namespace Entry

def isMatch : Entry → Bool
  | matched _ _ _ => true
  | _ => false

def isPositive : Entry → Bool
  | matched (.ok true) _ _ => true
  | _ => false

def isNegative : Entry → Bool
  | matched (.ok false) _ _ => true
  | _ => false

def isUnknownOperator : Entry → Bool
  | matched (.error (.unknownOperator _)) _ _ => true
  | _ => false

def isTypeMismatch : Entry → Bool
  | matched (.error (.typeMismatch ..)) _ _ => true
  | _ => false

def isSlow : Entry → Bool
  | matched _ slow _ => slow
  | _ => false

def completed : Entry → Nat
  | matched _ _ completed | givenUp completed | evaluated completed => completed

def raised (c : Counter) (entry : Entry) : Nat :=
  match c with
  | .total => entry.isMatch.toNat
  | .positive => entry.isPositive.toNat
  | .slow => entry.isSlow.toNat
  | .clauses => entry.completed
  | .unknownOperator => entry.isUnknownOperator.toNat
  | .typeMismatch => entry.isTypeMismatch.toNat

def increments : Entry → List Counter
  | matched outcome slow completed =>
    List.replicate completed .clauses ++ matchIncrements outcome slow
  | givenUp completed | evaluated completed => List.replicate completed .clauses

end Entry

namespace Session

/-- A time beyond the clock is the longest one that the clock has. -/
def perform (s : Session) : Move → Answer × Session
  | .decide registry query object micros =>
    s.decide registry query object (UInt64.ofNatClamp micros)
  | .evaluate registry operator body object => s.step (.evaluate registry operator body object)
  | .setThreshold us => s.step (.setThreshold us)
  | .create name source => s.step (.create name source)
  | .register registry name op => s.step (.register registry name op)
  | .unregister registry name => s.step (.unregister registry name)
  | .extend registry name op into => s.step (.extend registry name op into)
  | .reset => s.step .reset

def uncounted (s : Session) : Session := s.onHost fun h => { h with counters := {} }

def after (s : Session) (history : List Move) : Session :=
  history.foldl (fun s m => (s.perform m).2) s

/-- The entry of a move, if it is a call and its registry is there. -/
def record? (s : Session) : Move → Option Entry
  | .decide registry query object micros =>
    (s.find registry).1.map fun r =>
      let completed := r.completions s.host.limit rootOperator (.document query) object
      match (r.run s.host.limit query object).result with
      | some outcome => .matched outcome (s.host.threshold.toNat ≤ micros) completed
      | none => .givenUp completed
  | .evaluate registry operator body object =>
    (s.find registry).1.map fun r =>
      .evaluated (r.completions s.host.limit operator body object)
  | _ => none

def ledger (s : Session) : List Move → List Entry
  | [] => []
  | m :: rest => (s.record? m).toList ++ ledger (s.perform m).2 rest

end Session

namespace Host

def SameBooks (h h' : Host) : Prop :=
  h'.counters = h.counters ∧ h'.threshold = h.threshold ∧ h'.limit = h.limit

theorem SameBooks.trans {h h' h'' : Host} (first : h.SameBooks h') (second : h'.SameBooks h'') :
    h.SameBooks h'' :=
  ⟨second.1.trans first.1, second.2.1.trans first.2.1, second.2.2.trans first.2.2⟩

theorem report_insert_books (h : Host) (name : String) (op : Operator) :
    h.SameBooks (h.reportInsert name op) := by
  rw [report_insert_eq]
  exact ⟨h.log_all_counters _, h.log_all_threshold _, h.log_all_limit _⟩

theorem report_builtin_books (h : Host) : h.SameBooks h.reportBuiltin := by
  rw [report_builtin_eq]
  exact ⟨h.log_all_counters _, h.log_all_threshold _, h.log_all_limit _⟩

theorem use_shared_books (h : Host) : h.SameBooks h.useShared.2 := by
  unfold useShared
  split
  · exact ⟨rfl, rfl, rfl⟩
  · exact h.report_builtin_books

theorem reset_shared_books (h : Host) : h.SameBooks h.resetShared :=
  h.use_shared_books.trans h.useShared.2.report_builtin_books

theorem evaluate_counters (h : Host) (r : Registry) (operator : String) (body : Value)
    (object : Document) : (h.evaluate r operator body object).2.counters =
      h.counters.incrementAll
        (List.replicate (r.completions h.limit operator body object) .clauses) := by
  rw [← r.run_body_clause_count]
  exact h.observe_all_counters _

end Host

theorem le_clamp_iff {threshold : UInt64} {micros : Nat} :
    threshold ≤ UInt64.ofNatClamp micros ↔ threshold.toNat ≤ micros := by
  have hlt := threshold.toNat_lt
  rw [UInt64.le_iff_toNat_le]
  by_cases h : micros < UInt64.size
  · rw [UInt64.toNat_ofNatClamp_of_lt h]
  · rw [UInt64.toNat_ofNatClamp_of_le (Nat.le_of_not_lt h)]
    simp only [UInt64.size] at h ⊢
    omega

namespace Session

variable (s : Session) (registry : RegistryName)

theorem find_books : s.host.SameBooks (s.find registry).2.host := by
  cases registry with
  | shared => exact s.host.use_shared_books
  | own name => exact ⟨rfl, rfl, rfl⟩

theorem replace_books (r : Registry) : s.host.SameBooks (s.replace registry r).host := by
  cases registry <;> exact ⟨rfl, rfl, rfl⟩

theorem create_books (name : String) (source : Source) :
    s.host.SameBooks (s.create name source).2.host := by
  cases source with
  | empty => exact ⟨rfl, rfl, rfl⟩
  | builtin => exact s.host.report_builtin_books
  | copy registry =>
    have found := s.find_books registry
    rw [create]
    split <;> simp_all [put]

theorem register_books (name : String) (op : Operator) :
    s.host.SameBooks (s.register registry name op).2.host := by
  have found := s.find_books registry
  rw [register]
  split
  · rename_i r s' heq
    rw [heq] at found
    have reported := found.trans (s'.host.report_insert_books name op)
    exact reported.trans (replace_books _ registry _)
  · simp_all

theorem unregister_books (name : String) :
    s.host.SameBooks (s.unregister registry name).2.host := by
  have found := s.find_books registry
  rw [unregister]
  split
  · rename_i r s' heq
    rw [heq] at found
    exact found.trans (s'.replace_books registry _)
  · simp_all

theorem extend_books (name : String) (op : Operator) (into : String) :
    s.host.SameBooks (s.extend registry name op into).2.host := by
  have found := s.find_books registry
  rw [extend]
  split
  · rename_i r s' heq
    rw [heq] at found
    exact found.trans (s'.host.report_insert_books name op)
  · simp_all

variable {s registry}

theorem move_of_some {r : Registry} (h : (s.find registry).1 = some r)
    (shown : Outcome → Answer) (change : Host → Registry → Option Outcome × Host) :
    s.move registry shown change =
      ((change (s.find registry).2.host r).1.elim .givenUp shown,
        { (s.find registry).2 with host := (change (s.find registry).2.host r).2 }) := by
  rw [move, ← Prod.eta (s.find registry), h]

theorem move_of_none (h : (s.find registry).1 = none) (shown : Outcome → Answer)
    (change : Host → Registry → Option Outcome × Host) :
    s.move registry shown change = (.noRegistry, (s.find registry).2) := by
  rw [move, ← Prod.eta (s.find registry), h]

variable (s registry)

theorem move_answer (change : Host → Registry → Option Outcome × Host)
    (run : Nat → Registry → Run Bool)
    (h : ∀ host r, (change host r).1 = (run host.limit r).result) :
    (s.move registry .outcome change).1 =
      ((s.find registry).1.map fun r =>
        (run s.host.limit r).result.elim .givenUp .outcome).getD .noRegistry := by
  rw [← (s.find_books registry).2.2]
  cases found : (s.find registry).1 with
  | none => rw [move_of_none found, Option.map_none, Option.getD_none]
  | some r => rw [move_of_some found, h, Option.map_some, Option.getD_some]

theorem decide_answer (query object : Document) (elapsed : UInt64) :
    (s.decide registry query object elapsed).1 =
      ((s.find registry).1.map fun r =>
        (r.run s.host.limit query object).result.elim .givenUp .outcome).getD .noRegistry :=
  s.move_answer registry (fun h r => h.decide r query object elapsed)
    (fun limit r => r.run limit query object) fun _ _ => rfl

theorem evaluate_answer (operator : String) (body : Value) (object : Document) :
    (s.step (.evaluate registry operator body object)).1 =
      ((s.find registry).1.map fun r =>
        (r.runBody s.host.limit operator body object).result.elim .givenUp .outcome).getD
          .noRegistry :=
  s.move_answer registry (fun h r => h.evaluate r operator body object)
    (fun limit r => r.runBody limit operator body object) fun _ _ => rfl

theorem decide_move_counters (query object : Document) (micros : Nat) :
    (s.perform (.decide registry query object micros)).2.host.counters =
      s.host.counters.incrementAll
        ((s.record? (.decide registry query object micros)).toList.flatMap Entry.increments) := by
  -- The shared registry may have to be made first; that is logged, but nothing is counted.
  obtain ⟨counters, threshold, limit⟩ := s.find_books registry
  cases found : (s.find registry).1 with
  | none => simp [record?, perform, Session.decide, found, move_of_none found, counters]
  | some r =>
    have completed : (r.run s.host.limit query object).clauseCount =
        r.completions s.host.limit rootOperator (.document query) object :=
      r.run_body_clause_count _ _ _ _
    rw [perform, Session.decide, move_of_some found, Host.decide_counters, counters, threshold,
      limit, completed, record?, found]
    cases result : (r.run s.host.limit query object).result <;>
      simp [Entry.increments, le_clamp_iff, result]

theorem evaluate_move_counters (operator : String) (body : Value) (object : Document) :
    (s.perform (.evaluate registry operator body object)).2.host.counters =
      s.host.counters.incrementAll
        ((s.record? (.evaluate registry operator body object)).toList.flatMap
          Entry.increments) := by
  obtain ⟨counters, threshold, limit⟩ := s.find_books registry
  cases found : (s.find registry).1 with
  | none => simp [record?, perform, step, found, move_of_none found, counters]
  | some r =>
    simp [record?, perform, step, found, move_of_some found, Host.evaluate_counters,
      Entry.increments, counters, limit]

theorem move_keeps {α : Type} (part : Host → α)
    (found : part (s.find registry).2.host = part s.host) (shown : Outcome → Answer)
    (change : Host → Registry → Option Outcome × Host)
    (h : ∀ host r, part (change host r).2 = part host) :
    part (s.move registry shown change).2.host = part s.host := by
  cases there : (s.find registry).1 with
  | none => rw [move_of_none there, found]
  | some r => rw [move_of_some there, h, found]

theorem perform_counters (m : Move) : (s.perform m).2.host.counters =
    s.host.counters.incrementAll ((s.record? m).toList.flatMap Entry.increments) := by
  cases m with
  | decide registry query object micros => exact s.decide_move_counters registry query object micros
  | evaluate registry operator body object =>
    exact s.evaluate_move_counters registry operator body object
  | setThreshold us => rfl
  | create name source => exact (s.create_books name source).1
  | register registry name op => exact (s.register_books registry name op).1
  | unregister registry name => exact (s.unregister_books registry name).1
  | extend registry name op into => exact (s.extend_books registry name op into).1
  | reset => exact s.host.reset_shared_books.1

theorem perform_threshold (m : Move) :
    (s.perform m).2.host.threshold = m.threshold s.host.threshold := by
  cases m with
  | decide registry query object micros =>
    exact s.move_keeps registry Host.threshold (s.find_books registry).2.1 _ _
      fun host r => (host.decide_logs r query object _).threshold
  | evaluate registry operator body object =>
    exact s.move_keeps registry Host.threshold (s.find_books registry).2.1 _ _
      fun host r => (host.observe_all_logs _).threshold
  | setThreshold us => rfl
  | create name source => exact (s.create_books name source).2.1
  | register registry name op => exact (s.register_books registry name op).2.1
  | unregister registry name => exact (s.unregister_books registry name).2.1
  | extend registry name op into => exact (s.extend_books registry name op into).2.1
  | reset => exact s.host.reset_shared_books.2.1

theorem perform_limit (m : Move) : (s.perform m).2.host.limit = s.host.limit := by
  cases m with
  | decide registry query object micros =>
    exact s.move_keeps registry Host.limit (s.find_books registry).2.2 _ _
      fun host r => (host.decide_logs r query object _).limit
  | evaluate registry operator body object =>
    exact s.move_keeps registry Host.limit (s.find_books registry).2.2 _ _
      fun host r => (host.observe_all_logs _).limit
  | setThreshold us => rfl
  | create name source => exact (s.create_books name source).2.2
  | register registry name op => exact (s.register_books registry name op).2.2
  | unregister registry name => exact (s.unregister_books registry name).2.2
  | extend registry name op into => exact (s.extend_books registry name op into).2.2
  | reset => exact s.host.reset_shared_books.2.2

/-- A history raises what its ledger says. -/
theorem after_counters (history : List Move) : (s.after history).host.counters =
    s.host.counters.incrementAll ((s.ledger history).flatMap Entry.increments) := by
  induction history generalizing s with
  | nil => rfl
  | cons m rest ih =>
    have first := s.perform_counters m
    have following := ih (s.perform m).2
    rw [ledger, List.flatMap_append, Counters.incrementAll_append, ← first]
    exact following

theorem after_threshold (history : List Move) : (s.after history).host.threshold =
    history.foldl (fun us m => m.threshold us) s.host.threshold := by
  induction history generalizing s with
  | nil => rfl
  | cons m rest ih =>
    have following := ih (s.perform m).2
    rw [s.perform_threshold m] at following
    exact following

theorem after_limit (history : List Move) : (s.after history).host.limit = s.host.limit := by
  induction history generalizing s with
  | nil => rfl
  | cons m rest ih => exact (ih (s.perform m).2).trans (s.perform_limit m)

end Session

namespace Entry

theorem count_increments (entry : Entry) (c : Counter) :
    entry.increments.count c = entry.raised c := by
  have clauses (n : Nat) : (List.replicate n Counter.clauses).count c =
      if c = .clauses then n else 0 := by
    rw [List.count_replicate]
    cases c <;> rfl
  cases entry with
  | givenUp completed | evaluated completed => cases c <;> exact clauses completed
  | matched outcome slow completed =>
    rw [increments, List.count_append, clauses]
    rcases outcome with (_ | _) | (_ | _) <;> cases slow <;> cases c <;> rfl

variable (book : List Entry)

theorem count_all_increments (c : Counter) :
    (book.flatMap increments).count c = (book.map (raised c)).sum := by
  rw [List.count_flatMap]
  exact congrArg List.sum (List.map_congr_left fun entry _ => entry.count_increments c)

theorem sum_flags (p : Entry → Bool) :
    (book.map fun entry => (p entry).toNat).sum = book.countP p := by
  induction book with
  | nil => rfl
  | cons entry rest ih => cases h : p entry <;> simp [h, ih, Nat.add_comm]

theorem count_matches : book.countP isMatch = book.countP isPositive + book.countP isNegative +
    book.countP isUnknownOperator + book.countP isTypeMismatch := by
  induction book with
  | nil => rfl
  | cons entry rest ih =>
    simp only [List.countP_cons, ih]
    rcases entry with ⟨(_ | _) | (_ | _), _, _⟩ | _ | _ <;>
      simp +arith [isMatch, isPositive, isNegative, isUnknownOperator, isTypeMismatch]

end Entry

namespace Session

variable (s : Session) (history : List Move)

theorem read_counter (c : Counter) : (s.uncounted.after history).host.counters.get c =
    UInt64.ofNat ((s.uncounted.ledger history).map (Entry.raised c)).sum := by
  rw [after_counters, Counters.get_incrementAll, Entry.count_all_increments]
  cases c <;> exact UInt64.zero_add _

theorem read_flag {c : Counter} {p : Entry → Bool}
    (h : ∀ entry, Entry.raised c entry = (p entry).toNat) :
    (s.uncounted.after history).host.counters.get c =
      UInt64.ofNat ((s.uncounted.ledger history).countP p) := by
  rw [read_counter, funext h, Entry.sum_flags]

end Session

/-- After any history that begins with nothing counted, the counters are read off its ledger:
matches, those that said yes, slow ones, completed clauses, and those that failed in either way. The
rest of the matches said no. What makes a match slow is the threshold that was set last. A call to a
registry that is there answers what its run comes to, which is what the ledger has of it. -/
theorem counters_of_history (s : Session) (history : List Move) :
    let start := s.uncounted
    let now := start.after history
    let book := start.ledger history
    let number (p : Entry → Bool) := UInt64.ofNat (book.countP p)
    let answer (registry : RegistryName) (run : Registry → Run Bool) : Answer :=
      ((now.find registry).1.map fun r => (run r).result.elim .givenUp .outcome).getD .noRegistry
    (now.step .counters).1 =
        .counters [number Entry.isMatch, number Entry.isPositive, number Entry.isSlow,
          UInt64.ofNat (book.map Entry.completed).sum, number Entry.isUnknownOperator,
          number Entry.isTypeMismatch] ∧
      number Entry.isMatch - number Entry.isPositive - number Entry.isUnknownOperator -
        number Entry.isTypeMismatch = number Entry.isNegative ∧
      now.host.threshold = history.foldl (fun us m => m.threshold us) s.host.threshold ∧
      (∀ registry query object micros, (now.perform (.decide registry query object micros)).1 =
        answer registry fun r => r.run now.host.limit query object) ∧
      ∀ registry operator body object, (now.perform (.evaluate registry operator body object)).1 =
        answer registry fun r => r.runBody now.host.limit operator body object := by
  intro start now book number answer
  refine ⟨?_, ?_, start.after_threshold history,
    fun registry query object micros =>
      now.decide_answer registry query object (UInt64.ofNatClamp micros),
    fun registry operator body object => now.evaluate_answer registry operator body object⟩
  · have total := s.read_flag history (c := .total) (p := Entry.isMatch) fun _ => rfl
    have positive := s.read_flag history (c := .positive) (p := Entry.isPositive) fun _ => rfl
    have slow := s.read_flag history (c := .slow) (p := Entry.isSlow) fun _ => rfl
    have clauses := s.read_counter history .clauses
    have unknownOperator :=
      s.read_flag history (c := .unknownOperator) (p := Entry.isUnknownOperator) fun _ => rfl
    have typeMismatch :=
      s.read_flag history (c := .typeMismatch) (p := Entry.isTypeMismatch) fun _ => rfl
    simp only [Session.step, Counters.toList, Counter.all, List.map_cons, List.map_nil, now, start,
      total, positive, slow, clauses, unknownOperator, typeMismatch]
    rfl
  · have total : number Entry.isMatch = number Entry.isPositive + number Entry.isNegative +
        number Entry.isUnknownOperator + number Entry.isTypeMismatch := by
      simp only [number, Entry.count_matches book, UInt64.ofNat_add]
    rw [total]
    grind

/-- Each item of a list is evaluated as a query of its own; what fails is got over, and counted
nowhere. -/
example :
    let each : Operator := .combinator .all fun _ operand object =>
      match operand with
      | .array items => items.foldr (fun item next =>
          .ask "$and" (some item) object fun _ => next) (.answer (.ok true))
      | _ => .answer (.ok false)
    let registry := Registry.builtin.insert "$each" each
    let session : Session := { host := { threshold := 5 }, registries := [("r", registry)] }
    let items : Value := .array [.document [("$nope", .null)], .document [("$each", .document [])]]
    let matched := session.after [.decide (.own "r") [("$each", .document [("", items)])] [] 7]
    (matched.step .counters).1 = .counters [1, 1, 1, 3, 0, 0] := by
  rfl

end Criteria
