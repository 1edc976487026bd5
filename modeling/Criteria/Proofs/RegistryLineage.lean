import Criteria.Proofs.Accounting
import Criteria.Proofs.ByteOrder
import Criteria.Proofs.FieldClauses
import Criteria.Proofs.LogJournal
import Mathlib.Logic.Function.Basic

/-!
# Registries over histories

A registry has a lineage: what it started from, and the names that have been bound or freed since.
A copy takes the lineage along and goes on with one of its own. After any history every registry
answers by the lineage that goes with it, so what happens to one registry never shows in another,
nor in a copy that was taken before.
-/

namespace Criteria

structure Lineage where
  start : String → Option Operator
  events : List (String × Option Operator) := []

namespace Lineage

def empty : Lineage := { start := fun _ => none }

def builtin : Lineage := { start := fun name => (Builtin.ofName? name).map Builtin.operator }

def add (l : Lineage) (name : String) (op : Option Operator) : Lineage :=
  { l with events := l.events ++ [(name, op)] }

/-- The last event on a name decides, or else the start. -/
def binding (l : Lineage) (name : String) : Option Operator :=
  (l.events.reverse.lookup name).getD (l.start name)

theorem binding_add (l : Lineage) (name : String) (op : Option Operator) :
    (l.add name op).binding = fun n => if n = name then op else l.binding n := by
  funext n
  rw [binding, add, List.reverse_append, List.reverse_singleton, List.singleton_append,
    List.lookup_cons]
  by_cases h : n = name
  · simp [h]
  · simp [h, beq_false_of_ne h, binding]

end Lineage

abbrev Book := RegistryName → Option Lineage

namespace Book

/-- What a move does to the lineages. Calls do nothing to them. -/
def follow (b : Book) : Move → Book
  | .create name .empty => Function.update b (.own name) (some .empty)
  | .create name .builtin => Function.update b (.own name) (some .builtin)
  | .create name (.copy source) =>
    match b source with
    | some l => Function.update b (.own name) (some l)
    | none => b
  | .register registry name op =>
    match b registry with
    | some l => Function.update b registry (some (l.add name (some op)))
    | none => b
  | .unregister registry name =>
    match b registry with
    | some l => Function.update b registry (some (l.add name none))
    | none => b
  | .extend registry name op into =>
    match b registry with
    | some l => Function.update b (.own into) (some (l.add name (some op)))
    | none => b
  | .reset => Function.update b .shared (some .builtin)
  | .decide .. | .evaluate .. | .setThreshold _ => b

def after (b : Book) (history : List Move) : Book := history.foldl follow b

end Book

def Move.target? : Move → Option RegistryName
  | .create name _ => some (.own name)
  | .register registry _ _ => some registry
  | .unregister registry _ => some registry
  | .extend _ _ _ into => some (.own into)
  | .reset => some .shared
  | .decide .. | .evaluate .. | .setThreshold _ => none

namespace Registry

variable (r : Registry)

theorem mem_names_iff (name : String) : name ∈ r.names ↔ (r.get? name).isSome := by
  unfold names get?
  induction r.entries with
  | nil => simp
  | cons entry rest ih =>
    obtain ⟨n, op⟩ := entry
    rw [List.map_cons, List.mem_cons, lookup_cons_eq_ite, ih]
    by_cases h : name = n <;> simp [h]

theorem names_increasing : r.names.Pairwise fun a b => bytes a < bytes b :=
  r.increasing.imp bytes_lt_of_lt

theorem length_names : r.names.length = r.size := List.length_map ..

theorem names_is_empty : r.names.isEmpty = r.isEmpty := List.isEmpty_map

theorem get_insert_eq (name : String) (op : Operator) :
    (r.insert name op).get? = fun n => if n = name then some op else r.get? n :=
  funext fun n => r.get?_insert name n op

theorem get_erase_eq (name : String) :
    (r.erase name).get? = fun n => if n = name then none else r.get? n :=
  funext fun n => r.get?_erase name n

end Registry

namespace Session

def current? (s : Session) : RegistryName → Option Registry
  | .shared => some (s.host.shared.getD .builtin)
  | .own name => s.registries.lookup name

def SameRegistries (s t : Session) : Prop := ∀ m, t.current? m = s.current? m

section Moves

variable (s : Session) (registry : RegistryName)

theorem find_registry : (s.find registry).1 = s.current? registry := by
  cases registry with
  | shared => exact congrArg some s.host.use_shared_registry
  | own name => rfl

theorem find_keeps : s.SameRegistries (s.find registry).2 := by
  intro m
  cases registry with
  | own name => rfl
  | shared =>
    cases m with
    | own name => rfl
    | shared =>
      have used := s.host.use_shared_shared
      simp only [find, current?]
      rw [used]
      rfl

variable {s} in
theorem on_host_keeps {change : Host → Host} (h : (change s.host).shared = s.host.shared) :
    s.SameRegistries (s.onHost change) := by
  intro m
  cases m with
  | shared => exact congrArg (fun shared : Option Registry => some (shared.getD .builtin)) h
  | own name => rfl

theorem lookup_put (name : String) (r : Registry) (m : RegistryName) :
    (s.put name r).current? m = if m = .own name then some r else s.current? m := by
  cases m with
  | shared => rfl
  | own n =>
    have filtered : (s.registries.filter fun entry => entry.1 != name).lookup n =
        if n = name then none else s.registries.lookup n := by
      induction s.registries with
      | nil => simp
      | cons entry rest ih =>
        simp only [List.filter_cons]
        split <;> grind
    by_cases h : n = name
    · simp [current?, put, h]
    · simp [current?, put, List.lookup_cons, h, beq_false_of_ne h, filtered]

theorem lookup_replace (r : Registry) (m : RegistryName) :
    (s.replace registry r).current? m = if m = registry then some r else s.current? m := by
  cases registry with
  | own name => exact s.lookup_put name r m
  | shared => cases m <;> rfl

end Moves

/-- The lineages tell what every registry answers. -/
def Describes (b : Book) (s : Session) : Prop :=
  ∀ m, (s.current? m).map Registry.get? = (b m).map Lineage.binding

namespace Describes

variable {b : Book} {s t : Session} {registry : RegistryName} {r : Registry} {l : Lineage}

theorem keep (h : Describes b s) (same : s.SameRegistries t) : Describes b t := by
  intro m
  rw [same m]
  exact h m

theorem find (h : Describes b s) (registry : RegistryName) :
    (∃ r l t, s.find registry = (some r, t) ∧ b registry = some l ∧ r.get? = l.binding ∧
      Describes b t) ∨
    ∃ t, s.find registry = (none, t) ∧ b registry = none ∧ Describes b t := by
  have both := h registry
  have same := h.keep (s.find_keeps registry)
  rw [← s.find_registry registry] at both
  cases found : s.find registry with
  | mk r t =>
    rw [found] at both same
    cases r with
    | some r =>
      rw [Option.map_some] at both
      obtain ⟨l, hl, eq⟩ := Option.map_eq_some_iff.mp both.symm
      exact .inl ⟨r, l, t, rfl, hl, eq.symm, same⟩
    | none => exact .inr ⟨t, rfl, Option.map_eq_none_iff.mp both.symm, same⟩

theorem update (h : Describes b s)
    (one : ∀ m, t.current? m = if m = registry then some r else s.current? m)
    (eq : r.get? = l.binding) : Describes (Function.update b registry (some l)) t := by
  intro m
  rw [one m, Function.update_apply]
  by_cases hm : m = registry
  · simp [hm, eq]
  · simp [hm, h m]

end Describes

section Moves

variable {b : Book} {s : Session}

theorem report_insert_keeps (s : Session) (name : String) (op : Operator) :
    s.SameRegistries (s.onHost fun h => h.reportInsert name op) :=
  on_host_keeps (by rw [Host.report_insert_eq, Host.log_all_shared])

theorem report_builtin_keeps (s : Session) :
    s.SameRegistries (s.onHost Host.reportBuiltin) :=
  on_host_keeps (by rw [Host.report_builtin_eq, Host.log_all_shared])

theorem create_describes (h : Describes b s) (name : String) (source : Source) :
    Describes (b.follow (.create name source)) (s.create name source).2 := by
  cases source with
  | empty => exact h.update (s.lookup_put name .empty) rfl
  | builtin =>
    exact (h.keep s.report_builtin_keeps).update (lookup_put _ name .builtin) (funext get?_builtin)
  | copy source =>
    rw [create, Book.follow]
    obtain ⟨r, l, t, found, hl, eq, ht⟩ | ⟨t, found, hl, ht⟩ := h.find source
    · rw [found, hl]
      exact ht.update (t.lookup_put name r) eq
    · rw [found, hl]
      exact ht

theorem register_describes (h : Describes b s) (registry : RegistryName) (name : String)
    (op : Operator) :
    Describes (b.follow (.register registry name op)) (s.register registry name op).2 := by
  rw [register, Book.follow]
  obtain ⟨r, l, t, found, hl, eq, ht⟩ | ⟨t, found, hl, ht⟩ := h.find registry
  · rw [found, hl]
    refine (ht.keep (t.report_insert_keeps name op)).update (lookup_replace _ registry _) ?_
    rw [Registry.get_insert_eq, Lineage.binding_add, eq]
  · rw [found, hl]
    exact ht

theorem unregister_describes (h : Describes b s) (registry : RegistryName) (name : String) :
    Describes (b.follow (.unregister registry name)) (s.unregister registry name).2 := by
  rw [unregister, Book.follow]
  obtain ⟨r, l, t, found, hl, eq, ht⟩ | ⟨t, found, hl, ht⟩ := h.find registry
  · rw [found, hl]
    refine ht.update (t.lookup_replace registry _) ?_
    rw [Registry.get_erase_eq, Lineage.binding_add, eq]
  · rw [found, hl]
    exact ht

theorem extend_describes (h : Describes b s) (registry : RegistryName) (name : String)
    (op : Operator) (into : String) :
    Describes (b.follow (.extend registry name op into)) (s.extend registry name op into).2 := by
  rw [extend, Book.follow]
  obtain ⟨r, l, t, found, hl, eq, ht⟩ | ⟨t, found, hl, ht⟩ := h.find registry
  · rw [found, hl]
    refine (ht.keep (t.report_insert_keeps name op)).update (lookup_put _ into _) ?_
    rw [Registry.get_insert_eq, Lineage.binding_add, eq]
  · rw [found, hl]
    exact ht

theorem reset_describes (h : Describes b s) :
    Describes (b.follow .reset) (s.onHost Host.resetShared) := by
  refine h.update (r := .builtin) (fun m => ?_) (funext get?_builtin)
  cases m with
  | shared => simp [current?, onHost, Host.resetShared]
  | own name => rfl

theorem move_keeps_registries (s : Session) (registry : RegistryName) (shown : Outcome → Answer)
    (change : Host → Registry → Option Outcome × Host)
    (shared : ∀ host r, (change host r).2.shared = host.shared) :
    s.SameRegistries (s.move registry shown change).2 := by
  have same := s.find_keeps registry
  rw [Session.move]
  split
  case h_1 r t found =>
    rw [found] at same
    intro m
    rw [← same m]
    have kept : t.SameRegistries (t.onHost fun h => (change h r).2) :=
      on_host_keeps (shared t.host r)
    exact kept m
  case h_2 t found =>
    rw [found] at same
    exact same

theorem perform_describes (h : Describes b s) (move : Move) :
    Describes (b.follow move) (s.perform move).2 := by
  cases move with
  | decide registry query object micros =>
    exact h.keep (s.move_keeps_registries registry _ _
      fun host r => host.decide_shared r query object _)
  | evaluate registry operator body object =>
    exact h.keep (s.move_keeps_registries registry _ _ fun host r => host.observe_all_shared _)
  | setThreshold us => exact h.keep (on_host_keeps rfl)
  | create name source => exact create_describes h name source
  | register registry name op => exact register_describes h registry name op
  | unregister registry name => exact unregister_describes h registry name
  | extend registry name op into => exact extend_describes h registry name op into
  | reset => exact reset_describes h

theorem after_describes (h : Describes b s) (history : List Move) :
    Describes (b.after history) (s.after history) := by
  induction history generalizing b s with
  | nil => exact h
  | cons move rest ih => exact ih (perform_describes h move)

end Moves

section Others

variable (s : Session) {registry : RegistryName}

theorem put_spares (name : String) (r : Registry) (h : registry ≠ .own name) :
    (s.put name r).current? registry = s.current? registry := by
  rw [lookup_put, if_neg h]

theorem replace_spares (other : RegistryName) (r : Registry) (h : registry ≠ other) :
    (s.replace other r).current? registry = s.current? registry := by
  rw [lookup_replace, if_neg h]

/-- What is done with a registry that is found spares another one if it does so from there on. -/
theorem found_spares (source : RegistryName) (next : Registry → Session → Answer × Session)
    (h : ∀ r t, (next r t).2.current? registry = t.current? registry) :
    (match s.find source with
      | (some r, t) => next r t
      | (none, t) => (.noRegistry, t)).2.current? registry = s.current? registry := by
  have same := s.find_keeps source registry
  split
  case h_1 r t found =>
    rw [found] at same
    exact (h r t).trans same
  case h_2 t found =>
    rw [found] at same
    exact same

theorem perform_spares (move : Move) (h : move.target? ≠ some registry) :
    (s.perform move).2.current? registry = s.current? registry := by
  cases move with
  | decide other query object micros =>
    exact s.move_keeps_registries other _ _
      (fun host r => host.decide_shared r query object _) registry
  | evaluate other operator body object =>
    exact s.move_keeps_registries other _ _ (fun host r => host.observe_all_shared _) registry
  | setThreshold us => exact on_host_keeps (s := s) rfl registry
  | create name source =>
    have other : registry ≠ .own name := fun eq => h (congrArg some eq.symm)
    cases source with
    | empty => exact s.put_spares name .empty other
    | builtin =>
      exact (put_spares _ name .builtin other).trans (s.report_builtin_keeps registry)
    | copy source =>
      rw [perform, step, create]
      exact s.found_spares source _ fun r t => t.put_spares name r other
  | register other name op =>
    have hne : registry ≠ other := fun eq => h (congrArg some eq.symm)
    rw [perform, step, register]
    refine s.found_spares other _ fun r t => ?_
    exact (replace_spares _ other _ hne).trans (t.report_insert_keeps name op registry)
  | unregister other name =>
    have hne : registry ≠ other := fun eq => h (congrArg some eq.symm)
    rw [perform, step, unregister]
    exact s.found_spares other _ fun r t => t.replace_spares other _ hne
  | extend source name op into =>
    have other : registry ≠ .own into := fun eq => h (congrArg some eq.symm)
    rw [perform, step, extend]
    refine s.found_spares source _ fun r t => ?_
    exact (put_spares _ into _ other).trans (t.report_insert_keeps name op registry)
  | reset =>
    cases registry with
    | shared => exact absurd rfl h
    | own name => rfl

theorem after_spares (others : List Move) :
    (s.after (others.filter fun m => m.target? != some registry)).current? registry =
      s.current? registry := by
  induction others generalizing s with
  | nil => rfl
  | cons move rest ih =>
    rw [List.filter_cons]
    split
    case isTrue h => exact (ih _).trans (s.perform_spares move (bne_iff_ne.mp h))
    case isFalse => exact ih s

end Others

theorem ask_of_some {s : Session} {registry : RegistryName} {r : Registry}
    (h : (s.find registry).1 = some r) (question : Registry → Answer) :
    (s.ask registry question).1 = question r := by
  rw [ask, ← Prod.eta (s.find registry), h]

theorem register_of_some {s : Session} {registry : RegistryName} {r : Registry}
    (h : (s.find registry).1 = some r) (name : String) (op : Operator) :
    (s.register registry name op).1 = .replaced (r.get? name) := by
  rw [register, ← Prod.eta (s.find registry), h]

theorem unregister_of_some {s : Session} {registry : RegistryName} {r : Registry}
    (h : (s.find registry).1 = some r) (name : String) :
    (s.unregister registry name).1 = .replaced (r.get? name) := by
  rw [unregister, ← Prod.eta (s.find registry), h]

def book (s : Session) : Book := fun m => (s.find m).1.map fun r => { start := r.get? }

theorem book_describes (s : Session) : Describes s.book s := by
  intro m
  rw [book, find_registry]
  cases s.current? m <;> rfl

end Session

/-- After any history every registry, the shared one and copies of it among them, answers by its own
lineage: bindings, the names that are bound in the order of their bytes, their number, and what a
change takes the place of. Moves that are about other registries change none of its answers, nor how
a match under it ends. -/
theorem registries_follow_lineages (s : Session) (history : List Move) (registry : RegistryName) :
    let t := s.after history
    match s.book.after history registry with
    | none => (t.find registry).1 = none
    | some l =>
      (∀ name, (t.step (.get registry name)).1 = .operator (l.binding name)) ∧
      (∀ name, (t.step (.contains registry name)).1 = .flag (l.binding name).isSome) ∧
      (∃ names, names.Pairwise (fun a b => bytes a < bytes b) ∧
        (∀ name, name ∈ names ↔ (l.binding name).isSome) ∧
        (t.step (.names registry)).1 = .texts names ∧
        (t.step (.size registry)).1 = .number names.length ∧
        (t.step (.isEmpty registry)).1 = .flag names.isEmpty) ∧
      (∀ name op, (t.perform (.register registry name op)).1 = .replaced (l.binding name)) ∧
      (∀ name, (t.perform (.unregister registry name)).1 = .replaced (l.binding name)) ∧
      ∀ others : List Move,
        let u := t.after (others.filter fun m => m.target? != some registry)
        (u.find registry).1 = (t.find registry).1 ∧
          ∀ query object micros, (u.perform (.decide registry query object micros)).1 =
            (t.perform (.decide registry query object micros)).1 := by
  intro t
  have described : Session.Describes (s.book.after history) t :=
    Session.after_describes s.book_describes history
  obtain ⟨r, l, _, found, hl, eq, -⟩ | ⟨_, found, hl, -⟩ := described.find registry
  · have which : (t.find registry).1 = some r := by rw [found]
    simp only [hl]
    refine ⟨fun name => ?_, fun name => ?_,
      ⟨r.names, r.names_increasing, fun name => ?_, ?_, ?_, ?_⟩,
      fun name op => ?_, fun name => ?_, fun others => ?_⟩
    · rw [← eq, Session.step]
      exact Session.ask_of_some which _
    · rw [← eq, Session.step]
      exact Session.ask_of_some which _
    · rw [← eq]
      exact r.mem_names_iff name
    · rw [Session.step]
      exact Session.ask_of_some which _
    · rw [r.length_names, Session.step]
      exact Session.ask_of_some which _
    · rw [r.names_is_empty, Session.step]
      exact Session.ask_of_some which _
    · rw [← eq, Session.perform, Session.step]
      exact Session.register_of_some which name op
    · rw [← eq, Session.perform, Session.step]
      exact Session.unregister_of_some which name
    · have same : ((t.after (others.filter fun m => m.target? != some registry)).find registry).1 =
          (t.find registry).1 := by
        rw [Session.find_registry, Session.find_registry, Session.after_spares]
      refine ⟨same, fun query object micros => ?_⟩
      simp only [Session.perform, Session.decide_answer, same, Session.after_limit]
  · simp only [hl]
    rw [found]

end Criteria
