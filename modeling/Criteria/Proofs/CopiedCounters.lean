import Criteria.Proofs.HostEffects
import Mathlib.Algebra.GroupWithZero.Nat
import Mathlib.Data.List.Forall2
import Mathlib.Data.List.Induction
import Mathlib.Logic.Function.Basic

/-!
# Copies of counters that move

The reader copies one counter after the other while calls go on counting. So each counter of a copy
is what it was at a moment of its own, and these moments follow each other. The copy as a whole need
not be what the counters were at any moment: it can show any number of matches as positive that its
total does not have.
-/

namespace Criteria

theorem Counter.mem_all (c : Counter) : c ∈ all := by
  cases c <;> decide

namespace Counters

theorem ext_get {s t : Counters} (h : ∀ c, s.get c = t.get c) : s = t := by
  have total := h .total
  have positive := h .positive
  have slow := h .slow
  have clauses := h .clauses
  have unknown := h .unknownOperator
  have mismatch := h .typeMismatch
  cases s
  cases t
  simp only [get] at *
  simp [*]

def results (s : Counters) : Nat :=
  s.positive.toNat + s.unknownOperator.toNat + s.typeMismatch.toNat

end Counters

namespace Counting

def countersAt (s : Counting) (order : List Turn) (turns : Nat) : Counters :=
  (s.run (order.take turns)).counters

theorem run_append (s : Counting) (first second : List Turn) :
    s.run (first ++ second) = (s.run first).run second :=
  List.foldl_append

theorem run_snoc (s : Counting) (order : List Turn) (turn : Turn) :
    s.run (order ++ [turn]) = (s.run order).step turn :=
  s.run_append order [turn]

theorem countersAt_snoc (s : Counting) (turn : Turn) {order : List Turn} {turns : Nat}
    (h : turns ≤ order.length) :
    s.countersAt (order ++ [turn]) turns = s.countersAt order turns := by
  rw [countersAt, countersAt, List.take_append_of_le_length h]

theorem step_count (s : Counting) (index : Nat) :
    s.step (.count index) = s ∨
      ∃ before c rest after, s.pending = before ++ (c :: rest) :: after ∧
        s.step (.count index) =
          { s with counters := s.counters.increment c, pending := before ++ rest :: after } := by
  cases h : s.pending[index]? with
  | none => simp [step, h]
  | some left =>
    cases left with
    | nil => simp [step, h]
    | cons c rest =>
      right
      obtain ⟨bound, entry⟩ := List.getElem?_eq_some_iff.mp h
      refine ⟨s.pending.take index, c, rest, s.pending.drop (index + 1), ?_, ?_⟩
      · rw [← entry, List.getElem_cons_drop, List.take_append_drop]
      · simp only [step, h, List.set_eq_take_append_cons_drop, bound, ↓reduceIte]

theorem step_read (s : Counting) :
    s.unread = [] ∧ s.step .read = s ∨
      ∃ c rest, s.unread = c :: rest ∧
        s.step .read = { s with unread := rest, copy := s.copy.put c (s.counters.get c) } := by
  cases h : s.unread with
  | nil => simp [step, h]
  | cons c rest => simp [step, h]

def inTurn : Nat → List (List Counter) → List Turn
  | _, [] => []
  | index, left :: rest => List.replicate left.length (.count index) ++ inTurn (index + 1) rest

theorem run_call (s : Counting) {before after : List (List Counter)} {left : List Counter}
    (h : s.pending = before ++ left :: after) :
    s.run (List.replicate left.length (.count before.length)) =
      { s with counters := s.counters.incrementAll left, pending := before ++ [] :: after } := by
  induction left generalizing s with
  | nil =>
    rw [← h]
    rfl
  | cons c left ih =>
    have moved : s.step (.count before.length) =
        { s with counters := s.counters.increment c, pending := before ++ left :: after } := by
      simp [step, h]
    rw [List.length_cons, List.replicate_succ]
    exact (congrArg (run · _) moved).trans (ih _ rfl)

theorem run_in_turn (s : Counting) (before : List (List Counter)) {lefts : List (List Counter)}
    (h : s.pending = before ++ lefts) :
    s.run (inTurn before.length lefts) =
      { s with
        counters := s.counters.incrementAll lefts.flatten
        pending := before ++ lefts.map fun _ => [] } := by
  induction lefts generalizing s before with
  | nil =>
    rw [List.map_nil, ← h]
    rfl
  | cons left rest ih =>
    have here : (before ++ [[]]).length = before.length + 1 := List.length_append
    rw [inTurn, run_append, s.run_call h, ← here, ih _ _ (by simp)]
    simp [Counters.incrementAll_append]

/-- The counters that are copied in an order of turns, each at a moment: the turns before it. -/
structure Copied (start : Counting) (order : List Turn) (done : List Counter)
    (moment : Counter → Nat) : Prop where
  split : start.unread = done ++ (start.run order).unread
  within : ∀ c ∈ done, moment c < order.length
  ordered : done.Pairwise fun c d => moment c < moment d
  value : ∀ c ∈ done,
    (start.run order).copy.get c = (start.countersAt order (moment c)).get c

variable {start : Counting} {order : List Turn} {done : List Counter} {moment : Counter → Nat}

theorem Copied.skip {turn : Turn} (h : Copied start order done moment)
    (unread : ((start.run order).step turn).unread = (start.run order).unread)
    (copy : ((start.run order).step turn).copy = (start.run order).copy) :
    Copied start (order ++ [turn]) done moment where
  split := by rw [run_snoc, unread]; exact h.split
  within c hc := by
    have := h.within c hc
    simp only [List.length_append]
    omega
  ordered := h.ordered
  value c hc := by
    rw [run_snoc, copy, countersAt_snoc _ _ (Nat.le_of_lt (h.within c hc))]
    exact h.value c hc

theorem Copied.read {c : Counter} {rest : List Counter} (h : Copied start order done moment)
    (distinct : start.unread.Nodup) (next : (start.run order).unread = c :: rest)
    (moved : (start.run order).step .read =
      { start.run order with
        unread := rest
        copy := (start.run order).copy.put c ((start.run order).counters.get c) }) :
    Copied start (order ++ [.read]) (done ++ [c]) (Function.update moment c order.length) := by
  have split : start.unread = done ++ c :: rest := next ▸ h.split
  have other : ∀ d ∈ done, d ≠ c := by
    rw [split] at distinct
    exact fun d hd => (List.nodup_append.mp distinct).2.2 d hd c List.mem_cons_self
  have kept : ∀ d ∈ done, Function.update moment c order.length d = moment d := fun d hd =>
    Function.update_of_ne (other d hd) ..
  constructor
  · rw [run_snoc, moved, split, List.append_assoc]
    rfl
  · intro d hd
    rw [List.length_append, List.length_singleton]
    rcases List.mem_append.mp hd with hd | hd
    · have := h.within d hd
      rw [kept d hd]
      omega
    · rw [List.mem_singleton.mp hd, Function.update_self]
      omega
  · rw [List.pairwise_append]
    refine ⟨?_, List.pairwise_singleton .., ?_⟩
    · refine h.ordered.imp_of_mem fun hd he before => ?_
      rwa [kept _ hd, kept _ he]
    · intro d hd e he
      rw [List.mem_singleton.mp he, kept d hd, Function.update_self]
      exact h.within d hd
  · intro d hd
    rw [run_snoc, moved, Counters.get_put]
    rcases List.mem_append.mp hd with hd | hd
    · rw [if_neg (other d hd), kept d hd, countersAt_snoc _ _ (Nat.le_of_lt (h.within d hd))]
      exact h.value d hd
    · rw [if_pos (List.mem_singleton.mp hd), List.mem_singleton.mp hd, Function.update_self,
        countersAt, List.take_left]

theorem exists_copied (start : Counting) (distinct : start.unread.Nodup) (order : List Turn) :
    ∃ done moment, Copied start order done moment := by
  -- The last turn comes off first: the moments before it are not touched by it.
  induction order using List.reverseRecOn with
  | nil => exact ⟨[], fun _ => 0, rfl, by simp, .nil, by simp⟩
  | append_singleton order turn ih =>
    obtain ⟨done, moment, h⟩ := ih
    cases turn with
    | count index =>
      refine ⟨done, moment, h.skip ?_ ?_⟩ <;>
        obtain moved | ⟨_, _, _, _, _, moved⟩ := (start.run order).step_count index <;> rw [moved]
    | read =>
      obtain ⟨-, moved⟩ | ⟨c, rest, next, moved⟩ := (start.run order).step_read
      · exact ⟨done, moment, h.skip (by rw [moved]) (by rw [moved])⟩
      · exact ⟨_, _, h.read distinct next moved⟩

/-- What a counter comes to when all calls are over. -/
def due (s : Counting) (c : Counter) : Nat := (s.counters.get c).toNat + s.pending.flatten.count c

theorem step_due (s : Counting) (turn : Turn) (c : Counter) (fits : s.due c < 2 ^ 64) :
    (s.step turn).due c = s.due c := by
  cases turn with
  | read =>
    obtain ⟨-, moved⟩ | ⟨d, rest, -, moved⟩ := s.step_read <;> rw [moved]
    rfl
  | count index =>
    obtain moved | ⟨before, d, rest, after, pending, moved⟩ := s.step_count index
    · rw [moved]
    · rw [due, pending] at fits
      rw [moved, due, due, pending]
      simp only [Counters.get_increment, List.flatten_append, List.flatten_cons, List.count_append,
        List.count_cons, beq_iff_eq] at fits ⊢
      by_cases same : d = c
      · subst same
        simp only [↓reduceIte] at fits ⊢
        -- What is due has room in 64 bits, so raising the counter does not wrap.
        have room : (s.counters.get d).toNat + 1 < 2 ^ 64 := by omega
        rw [UInt64.toNat_add, UInt64.toNat_one, Nat.mod_eq_of_lt room]
        omega
      · rw [if_neg (Ne.symm same), if_neg same]
        omega

theorem run_due (s : Counting) (order : List Turn) (c : Counter) (fits : s.due c < 2 ^ 64) :
    (s.run order).due c = s.due c := by
  induction order generalizing s with
  | nil => rfl
  | cons turn rest ih =>
    have first := s.step_due turn c fits
    exact (ih (s.step turn) (first ▸ fits)).trans first

theorem forall₂_replace {R : List Counter → List Counter → Prop}
    {before after given : List (List Counter)} {old new : List Counter}
    (h : List.Forall₂ R (before ++ old :: after) given) (weaker : ∀ g, R old g → R new g) :
    List.Forall₂ R (before ++ new :: after) given := by
  induction before generalizing given with
  | nil =>
    cases h with
    | cons first rest => exact .cons (weaker _ first) rest
  | cons _ before ih =>
    cases h with
    | cons first rest => exact .cons first (ih rest)

theorem step_pending (s : Counting) (turn : Turn) {given : List (List Counter)}
    (h : List.Forall₂ List.IsSuffix s.pending given) :
    List.Forall₂ List.IsSuffix (s.step turn).pending given := by
  cases turn with
  | read =>
    obtain ⟨-, moved⟩ | ⟨d, rest, -, moved⟩ := s.step_read <;> rwa [moved]
  | count index =>
    obtain moved | ⟨before, d, rest, after, pending, moved⟩ := s.step_count index
    · rwa [moved]
    · rw [pending] at h
      rw [moved]
      exact forall₂_replace h fun _ suffix => (List.suffix_cons d rest).trans suffix

theorem run_pending (s : Counting) (order : List Turn) :
    List.Forall₂ List.IsSuffix (s.run order).pending s.pending := by
  induction order using List.reverseRecOn with
  | nil => exact List.forall₂_same.mpr fun l _ => List.suffix_refl l
  | append_singleton order turn ih =>
    rw [run_snoc]
    exact step_pending _ turn ih

theorem count_flatten_le {left given : List (List Counter)}
    (h : List.Forall₂ List.IsSuffix left given) (c : Counter) :
    left.flatten.count c ≤ given.flatten.count c := by
  induction h with
  | nil => exact Nat.le_refl _
  | cons first _ ih =>
    have := first.sublist.count_le c
    simp only [List.flatten_cons, List.count_append]
    omega

theorem get_run_mono (s : Counting) (order : List Turn) {c : Counter} (fits : s.due c < 2 ^ 64) :
    s.counters.get c ≤ (s.run order).counters.get c := by
  have same := s.run_due order c fits
  have fewer := count_flatten_le (s.run_pending order) c
  rw [UInt64.le_iff_toNat_le]
  simp only [due] at same
  omega

theorem countersAt_mono (s : Counting) (order : List Turn) {c : Counter} (fits : s.due c < 2 ^ 64)
    {early late : Nat} (h : early ≤ late) :
    (s.countersAt order early).get c ≤ (s.countersAt order late).get c := by
  obtain ⟨more, rfl⟩ := Nat.exists_eq_add_of_le h
  rw [countersAt, countersAt, List.take_add, run_append]
  exact get_run_mono _ _ ((s.run_due _ c fits).symm ▸ fits)

theorem Copied.between (h : Copied start order Counter.all moment)
    (fits : ∀ c, start.due c < 2 ^ 64) (c : Counter) :
    (start.countersAt order (moment .total)).get c ≤ (start.run order).copy.get c ∧
      (start.run order).copy.get c ≤ (start.countersAt order (moment .typeMismatch)).get c := by
  have ordered := h.ordered
  simp only [Counter.all, List.pairwise_cons, List.forall_mem_cons] at ordered
  have span : moment .total ≤ moment c ∧ moment c ≤ moment .typeMismatch := by
    cases c <;> omega
  rw [h.value c (Counter.mem_all c)]
  constructor
  · exact start.countersAt_mono order (fits c) span.1
  · exact start.countersAt_mono order (fits c) span.2

def resultCount (which : List Counter) : Nat :=
  which.count .positive + which.count .unknownOperator + which.count .typeMismatch

theorem match_increments_results (outcome : Except Failure Bool) (slow : Bool) :
    resultCount (matchIncrements outcome slow) ≤ 1 ∧
      (matchIncrements outcome slow).tail.count .total = 0 := by
  rcases outcome with (_ | _) | (_ | _) <;> cases slow <;>
    simp [resultCount, matchIncrements, outcomeCounter?]

theorem results_behind (call : Count) {left : List Counter} (h : left <:+ call.increments) :
    resultCount call.increments + left.count .total ≤
      call.increments.count .total + resultCount left := by
  cases call with
  | clause =>
    have none : left.count .total ≤ 0 := h.sublist.count_le .total
    have result : resultCount (Count.increments .clause) = 0 := rfl
    omega
  | matched outcome slow =>
    rcases List.suffix_cons_iff.mp h with rfl | later
    · exact Nat.le_of_eq (Nat.add_comm ..)
    · -- The total is behind the call, and there is at most one result.
      obtain ⟨single, without⟩ := match_increments_results outcome slow
      have none : left.count .total ≤ 0 := without ▸ later.sublist.count_le .total
      have one : 0 < (Count.increments (.matched outcome slow)).count .total :=
        List.count_pos_iff.mpr List.mem_cons_self
      simp only [Count.increments] at one ⊢
      omega

theorem results_all_behind {calls : List Count} {left : List (List Counter)}
    (h : List.Forall₂ List.IsSuffix left (calls.map Count.increments)) :
    resultCount (calls.map Count.increments).flatten + left.flatten.count .total ≤
      (calls.map Count.increments).flatten.count .total + resultCount left.flatten := by
  induction calls generalizing left with
  | nil =>
    cases h
    exact Nat.le_refl _
  | cons call calls ih =>
    cases h with
    | cons first rest =>
      have here := results_behind call first
      have there := ih rest
      simp only [resultCount, List.map_cons, List.flatten_cons, List.count_append] at *
      omega

theorem due_ofCalls (calls : List Count) (c : Counter) :
    (ofCalls calls).due c = (calls.flatMap Count.increments).count c := by
  cases c <;> exact Nat.zero_add _

/-- At every moment the total covers the results. -/
theorem results_le_total (calls : List Count) (order : List Turn)
    (fits : ∀ c, (ofCalls calls).due c < 2 ^ 64) :
    ((ofCalls calls).run order).counters.results ≤
      ((ofCalls calls).run order).counters.total.toNat := by
  have behind := results_all_behind ((ofCalls calls).run_pending order)
  have same := fun c => (run_due _ order c (fits c)).trans (due_ofCalls calls c)
  have total := same .total
  have positive := same .positive
  have unknown := same .unknownOperator
  have mismatch := same .typeMismatch
  simp only [due, Counters.get, resultCount, List.flatMap] at *
  unfold Counters.results
  omega

end Counting

open Counting

/-- Each counter of a copy is what it was at a moment of its own, and the moments are in the order
of the counters. So a copy lies between the counters at the first moment and those at the last, and
its results are within the total of the last. If the two agree, the copy is exact. -/
theorem copy_spans_moments (calls : List Count) (order : List Turn)
    (fits : ∀ c, (calls.flatMap Count.increments).count c < 2 ^ 64)
    (complete : ((ofCalls calls).run order).unread = []) :
    ∃ moment : Counter → Nat,
      let copy := ((ofCalls calls).run order).copy
      let first := (ofCalls calls).countersAt order (moment .total)
      let last := (ofCalls calls).countersAt order (moment .typeMismatch)
      Counter.all.Pairwise (fun c d => moment c < moment d) ∧
        (∀ c, moment c < order.length ∧
          copy.get c = ((ofCalls calls).countersAt order (moment c)).get c) ∧
        (∀ c, first.get c ≤ copy.get c ∧ copy.get c ≤ last.get c) ∧
        copy.results ≤ last.total.toNat ∧ (first = last → copy = first) := by
  have fits' : ∀ c, (ofCalls calls).due c < 2 ^ 64 := fun c => (due_ofCalls calls c).symm ▸ fits c
  have distinct : (ofCalls calls).unread.Nodup := by simp [ofCalls, Counter.all]
  obtain ⟨done, moment, copied⟩ := exists_copied (ofCalls calls) distinct order
  have all : done = Counter.all := by
    have split := copied.split
    rw [complete, List.append_nil] at split
    exact split.symm
  subst all
  have between := copied.between fits'
  refine ⟨moment, copied.ordered, ?_, between, ?_, ?_⟩
  · intro c
    exact ⟨copied.within c c.mem_all, copied.value c c.mem_all⟩
  · have cover := results_le_total calls (order.take (moment .typeMismatch)) fits'
    have positive := UInt64.le_iff_toNat_le.mp (between .positive).2
    have unknown := UInt64.le_iff_toNat_le.mp (between .unknownOperator).2
    have mismatch := UInt64.le_iff_toNat_le.mp (between .typeMismatch).2
    simp only [Counters.results, Counters.get, countersAt] at *
    omega
  · intro same
    refine Counters.ext_get fun c => UInt64.le_antisymm ?_ (between c).1
    exact same ▸ (between c).2

theorem copy_beside_two_matches :
    let start := ofCalls
      [.matched (.ok true) true, .clause, .matched (.error (.unknownOperator "x")) false]
    let order := [.count 0, .count 0, .read, .count 2, .read, .count 1, .read, .count 0, .read,
      .count 2, .read, .read]
    let copy := (start.run order).copy
    copy.toList = [1, 1, 0, 1, 1, 0] ∧ ∃ early late, early < late ∧
      ∀ c, (start.countersAt order early).get c ≤ copy.get c ∧
        copy.get c ≤ (start.countersAt order late).get c := by
  intro start order copy
  obtain ⟨moment, ordered, -, between, -, -⟩ := copy_spans_moments
    [.matched (.ok true) true, .clause, .matched (.error (.unknownOperator "x")) false] order
    (by intro c; cases c <;> decide) (by decide)
  refine ⟨by decide, moment .total, moment .typeMismatch, ?_, between⟩
  exact List.rel_of_pairwise_cons ordered (by decide)

/-- A match that is counted after the total was copied and before its outcome is: the copy has it as
positive, but not in its total, as the counters never had it. -/
theorem copy_of_no_moment :
    let start := ofCalls [.matched (.ok true) false]
    let order := [.read, .count 0, .count 0, .read, .read, .read, .read, .read]
    let copy := (start.run order).copy
    (start.run order).unread = [] ∧ (∀ turns ≤ order.length, start.countersAt order turns ≠ copy) ∧
      copy.total.toNat < copy.results := by
  decide

/-- Any number of matches can be counted between the first two loads, so there is no bound on the
results that a copy has in excess of its total. -/
theorem copy_gap (n : Nat) :
    let start := ofCalls (List.replicate n (.matched (.ok true) false))
    let order := .read :: (inTurn 0 start.pending ++ List.replicate 5 .read)
    let copy := (start.run order).copy
    (start.run order).unread = [] ∧ copy.total = 0 ∧ copy.positive = UInt64.ofNat n := by
  intro start order copy
  let loaded := start.step .read
  -- The first load comes before all matches, and the other loads come after them.
  have whole : start.run order = (loaded.run (inTurn 0 start.pending)).run (.replicate 5 .read) :=
    loaded.run_append _ _
  have counted : loaded.run (inTurn 0 start.pending) = _ := loaded.run_in_turn [] rfl
  have positives : start.pending.flatten.count .positive = n := by
    simp [start, ofCalls, Count.increments, matchIncrements, outcomeCounter?, List.count_flatten]
  have value : (Counters.incrementAll {} start.pending.flatten).get .positive = .ofNat n := by
    rw [Counters.get_incrementAll, positives]
    exact UInt64.zero_add _
  rw [counted] at whole
  refine ⟨?_, ?_, ?_⟩
  · rw [whole]
    rfl
  · simp only [copy, whole]
    rfl
  · simp only [copy, whole]
    exact value

end Criteria
