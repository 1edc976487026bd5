import Criteria.Proofs.DeepEquality
import Criteria.Proofs.TwoPhase

/-!
# Three comparisons of numbers

`$gt` and `$lt` look at the order of two numbers, which has no place for a NaN, and `$equal` at
their meaning, which all NaNs share. Put together, the three operators ask one question: how does
the number in the field stand to the operand? It has at most one answer, and none where a NaN meets
another number.
-/

namespace Criteria

namespace Value

def isNaN : Value → Bool
  | double d => d.isNaN
  | _ => false

/-- How a number stands to another one. A NaN stands in the place of every other NaN, and in no
order to the rest. -/
def standing? (a b : Value) : Option Ordering :=
  if a.isNaN && b.isNaN then some .eq else a.compare? b

theorem is_nan_eq {v : Value} (h : v.isNumber = true) : v.isNaN = v.quantity?.isNone := by
  cases v with
  | int32 _ | int64 _ => rfl
  | double d => cases hn : d.isNaN <;> simp [isNaN, quantity?, Binary64.quantity?, hn]
  | _ => cases h

theorem compare_swap (a b : Value) : b.compare? a = (a.compare? b).map Ordering.swap := by
  rw [compare_eq_cmp, compare_eq_cmp]
  cases a.quantity? <;> cases b.quantity? <;> simp [cmp_swap]

theorem standing_swap (a b : Value) : b.standing? a = (a.standing? b).map Ordering.swap := by
  rw [standing?, standing?, Bool.and_comm, compare_swap a b]
  split <;> rfl

theorem standing_swap_beq (a b : Value) (order : Ordering) :
    (b.standing? a == some order.swap) = (a.standing? b == some order) := by
  rw [standing_swap a b]
  cases a.standing? b with
  | none => rfl
  | some other => cases other <;> cases order <;> rfl

section Numbers

variable {a b : Value} (ha : a.isNumber = true) (hb : b.isNumber = true)

include ha hb

theorem standing_eq_none_iff : a.standing? b = none ↔ a.isNaN ≠ b.isNaN := by
  rw [standing?, compare_eq_cmp, is_nan_eq ha, is_nan_eq hb]
  cases a.quantity? <;> cases b.quantity? <;> simp

theorem deep_equal_eq_standing : a.deepEqual b = (a.standing? b == some .eq) := by
  rw [Bool.eq_iff_iff, beq_iff_eq, standing?, compare_eq_cmp, is_nan_eq ha, is_nan_eq hb]
  refine (deep_number_iff ha).trans ?_
  cases a.quantity? <;> cases b.quantity? <;> simp [hb]

theorem compare_eq_standing {order : Ordering} (strict : order ≠ .eq) :
    (a.compare? b == some order) = (a.standing? b == some order) := by
  rw [standing?, compare_eq_cmp, is_nan_eq ha, is_nan_eq hb]
  cases a.quantity? <;> cases b.quantity? <;> simp [strict.symm]

end Numbers

end Value

namespace Builtin

def asking : Ordering → Builtin
  | .lt => lt
  | .eq => equal
  | .gt => gt

theorem name_asking_inj {first second : Ordering}
    (h : (asking first).name = (asking second).name) : first = second := by
  revert h
  cases first <;> cases second <;> decide

theorem mem_comparisons_iff {operator : String} :
    operator ∈ ["$gt", "$lt", "$equal"] ↔ ∃ order, (asking order).name = operator := by
  constructor
  · intro h
    simp only [List.mem_cons, List.not_mem_nil, or_false] at h
    rcases h with rfl | rfl | rfl
    · exact ⟨.gt, rfl⟩
    · exact ⟨.lt, rfl⟩
    · exact ⟨.eq, rfl⟩
  · rintro ⟨order, rfl⟩
    cases order <;> decide

end Builtin

open Builtin

theorem comparison_result {x y : Value} (hx : x.isNumber = true) (hy : y.isNumber = true)
    (limit : Nat) (field : String) (order : Ordering) :
    (Registry.builtin.run limit [((asking order).name, .document [(field, y)])]
      [(field, x)]).result = some (.ok (x.standing? y == some order)) := by
  have found : Document.get? [(field, x)] field = some x := by simp [Document.get?]
  have predicate : (asking order).isCombinator = false := by cases order <;> rfl
  have sound : (asking order).fieldFailure? field y [(field, x)] = none := by
    cases order <;> simp [asking, fieldFailure?, found, hx, hy]
  have holds : (asking order).fieldHolds field y [(field, x)] = (x.standing? y == some order) := by
    cases order with
    | lt =>
      simp only [asking, fieldHolds, found]
      exact Value.compare_eq_standing hx hy (by decide)
    | eq =>
      simp only [asking, fieldHolds, found, fieldEqual]
      exact Value.deep_equal_eq_standing hx hy
    | gt =>
      simp only [asking, fieldHolds, found]
      exact Value.compare_eq_standing hx hy (by decide)
  rw [run_of_predicate limit predicate, sound, holds]
  rfl

theorem comparison_holds_iff {x y : Value} (hx : x.isNumber = true) (hy : y.isNumber = true)
    (limit : Nat) (field : String) {place : Ordering} (h : x.standing? y = some place)
    {operator : String}
    (mem : operator ∈ ["$gt", "$lt", "$equal"]) :
    (Registry.builtin.run limit [(operator, .document [(field, y)])] [(field, x)]).result =
      some (.ok true) ↔ operator = (asking place).name := by
  obtain ⟨order, rfl⟩ := mem_comparisons_iff.mp mem
  rw [comparison_result hx hy, h]
  constructor
  · intro matched
    have same : place = order := by simpa using matched
    rw [same]
  · intro names
    rw [name_asking_inj names, beq_self_eq_true]

/-- On numbers of any kinds no comparison fails. Exactly one of the three holds of two numbers that
are no NaN, none of them holds where one is a NaN, and between NaNs only equality holds. When the
numbers change places, `$gt` and `$lt` do too and equality stays. -/
theorem comparisons_partition_numbers {x y : Value} (hx : x.isNumber = true)
    (hy : y.isNumber = true) (limit : Nat) (field : String) :
    let result (operator : String) (actual operand : Value) : Option Outcome :=
      (Registry.builtin.run limit [(operator, .document [(field, operand)])]
        [(field, actual)]).result
    let operators := ["$gt", "$lt", "$equal"]
    (∀ operator ∈ operators, ∃ outcome, result operator x y = some (.ok outcome)) ∧
      (x.isNaN = false → y.isNaN = false →
        ∃! operator, operator ∈ operators ∧ result operator x y = some (.ok true)) ∧
      (x.isNaN ≠ y.isNaN → ∀ operator ∈ operators, result operator x y = some (.ok false)) ∧
      (x.isNaN = true → y.isNaN = true → ∀ operator ∈ operators,
        (result operator x y = some (.ok true) ↔ operator = "$equal")) ∧
      result "$gt" x y = result "$lt" y x ∧ result "$equal" x y = result "$equal" y x := by
  intro result operators
  have asked (order : Ordering) :
      result (asking order).name x y = some (.ok (x.standing? y == some order)) :=
    comparison_result hx hy limit field order
  have swapped (order : Ordering) :
      result (asking order).name x y = result (asking order.swap).name y x := by
    calc result (asking order).name x y
        = some (.ok (x.standing? y == some order)) := asked order
      _ = some (.ok (y.standing? x == some order.swap)) := by rw [Value.standing_swap_beq]
      _ = result (asking order.swap).name y x :=
          (comparison_result hy hx limit field order.swap).symm
  refine ⟨?_, ?_, ?_, ?_, swapped .gt, swapped .eq⟩
  · intro operator mem
    obtain ⟨order, rfl⟩ := mem_comparisons_iff.mp mem
    exact ⟨_, asked order⟩
  · intro nx ny
    have placed : x.standing? y ≠ none := by
      rw [Ne, Value.standing_eq_none_iff hx hy, nx, ny]
      simp
    obtain ⟨place, h⟩ := Option.ne_none_iff_exists'.mp placed
    have mem := mem_comparisons_iff.mpr ⟨place, rfl⟩
    refine ⟨(asking place).name, ⟨mem, ?_⟩, ?_⟩
    · exact (comparison_holds_iff hx hy limit field h mem).mpr rfl
    · rintro operator ⟨other, matched⟩
      exact (comparison_holds_iff hx hy limit field h other).mp matched
  · intro apart operator mem
    obtain ⟨order, rfl⟩ := mem_comparisons_iff.mp mem
    rw [asked, (Value.standing_eq_none_iff hx hy).mpr apart]
    rfl
  · intro nx ny operator mem
    -- NaNs share a place, and equality is the operator that asks for it.
    have shared : x.standing? y = some .eq := by simp [Value.standing?, nx, ny]
    exact comparison_holds_iff hx hy limit field shared mem

/-- An integer next to the double that it would be rounded to, and NaNs on one side and on both. -/
theorem comparisons_at_edges :
    let result (operator : String) (actual operand : Value) : Option Outcome :=
      (Registry.builtin.run 0 [(operator, .document [("n", operand)])] [("n", actual)]).result
    let big : Value := .int64 (2 ^ 53 + 1)
    let near : Value := .double ⟨0x4340000000000000⟩
    let nan : Value := .double .nan
    (big.isNumber = true ∧ near.isNumber = true ∧ nan.isNumber = true) ∧
      (∃! operator,
        operator ∈ ["$gt", "$lt", "$equal"] ∧ result operator big near = some (.ok true)) ∧
      (∀ operator ∈ ["$gt", "$lt", "$equal"], result operator nan big = some (.ok false)) ∧
      result "$equal" nan (.double Binary64.nan.neg) = some (.ok true) := by
  intro result big near nan
  obtain ⟨-, single, -⟩ := comparisons_partition_numbers (x := big) (y := near) rfl rfl 0 "n"
  obtain ⟨-, -, apart, -⟩ := comparisons_partition_numbers (x := nan) (y := big) rfl rfl 0 "n"
  obtain ⟨-, -, -, together, -⟩ :=
    comparisons_partition_numbers (x := nan) (y := .double Binary64.nan.neg) rfl rfl 0 "n"
  refine ⟨⟨rfl, rfl, rfl⟩, single rfl (by decide), apart (by decide), ?_⟩
  exact (together (by decide) (by decide) "$equal" (by decide)).mpr rfl

end Criteria
