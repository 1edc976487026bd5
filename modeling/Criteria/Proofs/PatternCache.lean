import Criteria.Operator.Builtin
import Criteria.Pattern
import Mathlib.Data.List.Induction

/-!
# The cache of patterns is not noticed

Whatever calls move in between, a call for a pattern answers as if the pattern was built for it.
What carries this is that a cache only has patterns as they come from building, so it does not
matter which call put a pattern there, nor when.
-/

namespace Criteria.Pattern

namespace Flags

def switchOn (flags : Flags) : Char → Flags
  | 'i' => { flags with caseInsensitive := true }
  | 'm' => { flags with multiLine := true }
  | 's' => { flags with dotAll := true }
  | 'x' => { flags with verbose := true }
  | 'u' => { flags with unicode := true }
  | _ => flags

theorem switch_on_eq (flags : Flags) (letter : Char) (h : flags.unicode = true) :
    flags.switchOn letter =
      { flags with
        caseInsensitive := flags.caseInsensitive || 'i' == letter
        multiLine := flags.multiLine || 'm' == letter
        dotAll := flags.dotAll || 's' == letter
        verbose := flags.verbose || 'x' == letter } := by
  unfold switchOn
  split
  case h_6 hi hm hs hx hu =>
    simp [beq_false_of_ne (Ne.symm hi), beq_false_of_ne (Ne.symm hm), beq_false_of_ne (Ne.symm hs),
      beq_false_of_ne (Ne.symm hx)]
  all_goals simp [h]

theorem fold_letters (letters : List Char) (flags : Flags) (h : flags.unicode = true) :
    letters.foldl switchOn flags =
      { flags with
        caseInsensitive := flags.caseInsensitive || letters.contains 'i'
        multiLine := flags.multiLine || letters.contains 'm'
        dotAll := flags.dotAll || letters.contains 's'
        verbose := flags.verbose || letters.contains 'x' } := by
  induction letters generalizing flags with
  | nil => simp
  | cons letter rest ih =>
    have first := flags.switch_on_eq letter h
    have following := ih (flags.switchOn letter) (by rw [first]; exact h)
    rw [List.foldl_cons, following, first]
    simp only [List.contains_cons, Bool.or_assoc]

theorem read_letters (options : String) :
    options.toList.foldl switchOn {} = ofOptions options := by
  rw [fold_letters _ _ rfl]
  simp [ofOptions]

end Flags

namespace Cache

/-- A cache that cannot be noticed. -/
structure Sound (c : Cache) : Prop where
  bounded : c.entries.length ≤ capacity
  distinct : (c.entries.map Prod.fst).Nodup
  fresh : ∀ entry ∈ c.entries, entry.1.build? = some entry.2

theorem sound_empty : Sound {} where
  bounded := Nat.zero_le _
  distinct := List.nodup_nil
  fresh := by simp

variable {c : Cache} {key : Key} {p : Pattern}

theorem Sound.insert (hc : c.Sound) (hp : key.build? = some p) : (c.insert key p).Sound where
  bounded := List.length_take_le _ _
  distinct := by
    -- The key is taken out before it is put in front.
    have others : ((c.entries.filter fun entry => entry.1 != key).map Prod.fst).Nodup :=
      hc.distinct.sublist (List.filter_sublist.map _)
    have whole : (((key, p) :: c.entries.filter fun entry => entry.1 != key).map Prod.fst).Nodup :=
      List.nodup_cons.mpr ⟨by simp, others⟩
    exact whole.sublist ((List.take_sublist _ _).map _)
  fresh := by
    intro entry hm
    rcases List.mem_cons.mp (List.mem_of_mem_take hm) with rfl | hm
    · exact hp
    · exact hc.fresh entry ((List.mem_filter.mp hm).1)

theorem Sound.build_of_lookup (hc : c.Sound) (h : c.entries.lookup key = some p) :
    key.build? = some p := by
  obtain ⟨before, after, split, _⟩ := List.lookup_eq_some_iff.mp h
  exact hc.fresh (key, p) (by simp [split])

end Cache

namespace Call

def key : Call → Key
  | asking key => key
  | building key => key
  | answered key _ => key

def answer? : Call → Option (Option Pattern)
  | answered _ answer => some answer
  | _ => none

def left : Call → Nat
  | asking _ => 2
  | building _ => 1
  | answered _ _ => 0

/-- A call for a key that has made a number of moves. -/
structure Serves (call : Call) (key : Key) (moves : Nat) : Prop where
  same_key : call.key = key
  faithful : ∀ answer, call.answer? = some answer → answer = key.build?
  quick : call.left ≤ 2 - moves

variable {call : Call} {c : Cache} {key : Key} {moves : Nat}

theorem serves_asking (key : Key) : (asking key).Serves key 0 :=
  ⟨rfl, by simp [answer?], Nat.le_refl _⟩

theorem serves_answered (key : Key) (moves : Nat) : (answered key key.build?).Serves key moves :=
  ⟨rfl, fun _ h => (Option.some.inj h).symm, Nat.zero_le _⟩

theorem Serves.is_answered (h : call.Serves key moves) (two : 2 ≤ moves) : call.answer?.isSome := by
  have quick := h.quick
  cases call with
  | answered key answer => rfl
  | _ =>
    simp only [left] at quick
    omega

theorem step_sound (hc : c.Sound) (call : Call) : (call.step c).2.Sound := by
  cases call with
  | asking key =>
    cases found : c.entries.lookup key with
    | none => simpa [step, Cache.lookup, found] using hc
    | some p => simpa [step, Cache.lookup, found] using hc.insert (hc.build_of_lookup found)
  | building key =>
    cases built : key.build? with
    | none => simpa [step, built] using hc
    | some p => simpa [step, built] using hc.insert built
  | answered key answer => exact hc

theorem Serves.step (hc : c.Sound) (h : call.Serves key moves) :
    (call.step c).1.Serves key (moves + 1) := by
  obtain ⟨rfl, faithful, quick⟩ := h
  cases call with
  | asking key =>
    cases found : c.entries.lookup key with
    | none =>
      have moved : ((asking key).step c).1 = building key := by
        simp [Call.step, Cache.lookup, found]
      rw [moved]
      exact ⟨rfl, by simp [answer?], by simp only [left] at quick ⊢; omega⟩
    | some p =>
      -- Whoever put the pattern there, the answer is what this call would have built.
      have moved : ((asking key).step c).1 = answered key (some p) := by
        simp [Call.step, Cache.lookup, found]
      rw [moved, ← hc.build_of_lookup found]
      exact serves_answered key _
  | building key =>
    have moved : ((building key).step c).1 = answered key key.build? := by
      cases built : key.build? <;> simp [Call.step, built]
    rw [moved]
    exact serves_answered key _
  | answered key answer =>
    have same : answer = key.build? := faithful answer rfl
    subst same
    exact serves_answered key _

end Call

namespace Calls

structure Served (s : Calls) (keys : List Key) (order : List Nat) : Prop where
  sound : s.cache.Sound
  serves : ∀ i key, keys[i]? = some key →
    ∃ call : Call, s.calls[i]? = some call ∧ call.Serves key (order.count i)

variable {s : Calls} {keys : List Key} {order : List Nat}

theorem served_start (keys : List Key) : (ofKeys keys).Served keys [] where
  sound := Cache.sound_empty
  serves i key h := ⟨.asking key, by simp [ofKeys, h], Call.serves_asking key⟩

theorem Served.step (h : s.Served keys order) (index : Nat) :
    (s.step index).Served keys (order ++ [index]) := by
  cases found : s.calls[index]? with
  | none =>
    have stays : s.step index = s := by simp [Calls.step, found]
    rw [stays]
    refine ⟨h.sound, fun i key hk => ?_⟩
    obtain ⟨call, hc, served⟩ := h.serves i key hk
    -- A move of a call that is not there changes nothing, but it has an index of its own.
    have other : index ≠ i := by
      rintro rfl
      simp [found] at hc
    refine ⟨call, hc, ?_⟩
    rwa [List.count_append, List.count_singleton, beq_false_of_ne other]
  | some moving =>
    have moves : s.step index =
        ⟨(moving.step s.cache).2, s.calls.set index (moving.step s.cache).1⟩ := by
      simp [Calls.step, found]
    rw [moves]
    refine ⟨Call.step_sound h.sound moving, fun i key hk => ?_⟩
    obtain ⟨call, hc, served⟩ := h.serves i key hk
    by_cases same : index = i
    · subst same
      obtain rfl : moving = call := Option.some.inj (found.symm.trans hc)
      have there : index < s.calls.length := (List.getElem?_eq_some_iff.mp hc).1
      refine ⟨_, List.getElem?_set_self there, ?_⟩
      rw [List.count_append, List.count_singleton_self]
      exact served.step h.sound
    · refine ⟨call, (List.getElem?_set_ne same).trans hc, ?_⟩
      rwa [List.count_append, List.count_singleton, beq_false_of_ne same]

theorem served_run (keys : List Key) (order : List Nat) :
    ((ofKeys keys).run order).Served keys order := by
  -- Moves are taken off the end, as a call is known by the moves that it has made so far.
  induction order using List.reverseRecOn with
  | nil => exact served_start keys
  | append_singleton order index ih =>
    have last : (ofKeys keys).run (order ++ [index]) = ((ofKeys keys).run order).step index :=
      List.foldl_append
    rw [last]
    exact ih.step index

end Calls

end Criteria.Pattern

namespace Criteria

/-- The clause of a pattern, which asks for the pattern in some way. -/
def Builtin.testPatternBy (compile : String → String → Option Pattern) : Predicate :=
  fun field operand object =>
    match object.get? field with
    | some (.string text) =>
      match operand with
      | .regex source options =>
        match compile source options with
        | some p => ⟨.ok (p.isMatch text), false⟩
        | none => ⟨pattern.mismatch .definition "not a valid regex" operand, true⟩
      | _ => ⟨pattern.mismatch .definition "not a regex" operand, false⟩
    | other => ⟨pattern.mismatch .object "not a string" other, false⟩

theorem Builtin.test_pattern_by_building :
    testPatternBy Pattern.compile? = testPattern := rfl

theorem Builtin.test_pattern_congr {compile compile' : String → String → Option Pattern}
    {source options : String} (h : compile source options = compile' source options)
    (field : String) (object : Document) :
    testPatternBy compile field (.regex source options) object =
      testPatternBy compile' field (.regex source options) object := by
  simp only [testPatternBy, h]

/-- Calls for patterns in any number, in any order of their moves: the cache stays sound, and a call
that has made two moves is answered. Every answer is what building the pattern gives, with the flags
whose letters are among the options, and it settles a clause as building does. -/
theorem pattern_cache_transparent (keys : List Pattern.Key) (order : List Nat) :
    let s := (Pattern.Calls.ofKeys keys).run order
    (s.cache.entries.length ≤ 256 ∧ (s.cache.entries.map Prod.fst).Nodup ∧
      ∀ entry ∈ s.cache.entries, entry.1.build? = some entry.2) ∧
    ∀ i source options, keys[i]? = some (source, options) →
      let flags := options.toList.foldl Pattern.Flags.switchOn {}
      flags =
        { caseInsensitive := 'i' ∈ options.toList
          multiLine := 'm' ∈ options.toList
          dotAll := 's' ∈ options.toList
          verbose := 'x' ∈ options.toList } ∧
      ∃ call, s.calls[i]? = some call ∧ call.key = (source, options) ∧
        (2 ≤ order.count i → call.answer?.isSome) ∧
        ∀ answer, call.answer? = some answer →
          answer = Pattern.build? source flags ∧
          ∀ field object,
            Builtin.testPatternBy (fun _ _ => answer) field (.regex source options) object =
              Builtin.testPattern field (.regex source options) object := by
  intro s
  obtain ⟨sound, serves⟩ := Pattern.Calls.served_run keys order
  refine ⟨⟨sound.bounded, sound.distinct, sound.fresh⟩, fun i source options hk => ?_⟩
  intro flags
  have letters : flags = Pattern.Flags.ofOptions options := Pattern.Flags.read_letters options
  obtain ⟨call, hc, served⟩ := serves i (source, options) hk
  refine ⟨?_, call, hc, served.same_key, served.is_answered, fun answer ha => ?_⟩
  · rw [letters, Pattern.Flags.ofOptions]
    simp
  · have built : answer = Pattern.build? source flags := by
      rw [letters]
      exact served.faithful answer ha
    refine ⟨built, fun field object => ?_⟩
    rw [← Builtin.test_pattern_by_building]
    apply Builtin.test_pattern_congr
    rw [built, letters, Pattern.compile?]

end Criteria
