import Criteria.Proofs.WholePart
import Criteria.Value.Comparison

/-!
# Integers and doubles in one order

An integer is compared with a double by the whole part of the double, which becomes an integer of 64
bits and is taken away from the double again. Behind the two guards nothing is lost on the way, so
numbers of all kinds are compared by the quantities that they stand for.
-/

namespace Criteria

namespace Binary64

theorem quantity_of_limit :
    intLimit.quantity? = some (.ofRat (2 ^ 63)) ∧
      intLimit.neg.quantity? = some (.ofRat (-2 ^ 63)) := by
  have hs : intLimit.significand = 2 ^ 52 := by decide
  have he : intLimit.exponent = 11 := by decide
  have hs' : intLimit.neg.significand = 2 ^ 52 := by decide
  have he' : intLimit.neg.exponent = 11 := by decide
  have hn : intLimit.negative = false := by decide
  have hn' : intLimit.neg.negative = true := by decide
  rw [quantity_of_finite (by decide), quantity_of_finite (by decide), value, value, hs, he, hs',
    he', hn, hn']
  norm_num

theorem whole_near (d : Binary64) :
    (d.negative = true ∧ (d.whole : ℚ) - 1 < d.value ∧ d.value ≤ d.whole) ∨
      (d.negative = false ∧ (d.whole : ℚ) ≤ d.value ∧ d.value < d.whole + 1) := by
  rw [whole_eq]
  cases d.negative with
  | true =>
    have hlt := Int.ceil_lt_add_one d.value
    exact .inl ⟨rfl, sub_lt_iff_lt_add.mpr hlt, Int.le_ceil d.value⟩
  | false => exact .inr ⟨rfl, Int.floor_le d.value, Int.lt_floor_add_one d.value⟩

theorem compare_whole {n : ℤ} {d : Binary64} (h : n ≠ d.whole) :
    cmp n d.whole = cmp (n : ℚ) d.value := by
  have near := d.whole_near
  rcases Int.lt_or_gt_of_ne h with hlt | hgt
  · have step : (n : ℚ) + 1 ≤ d.whole := by exact_mod_cast hlt
    have below : (n : ℚ) < d.value := by
      rcases near with ⟨-, h, -⟩ | ⟨-, h, -⟩ <;> linarith
    rw [(cmp_eq_lt_iff _ _).mpr hlt, (cmp_eq_lt_iff _ _).mpr below]
  · have step : (d.whole : ℚ) + 1 ≤ n := by exact_mod_cast hgt
    have above : d.value < n := by
      rcases near with ⟨-, -, h⟩ | ⟨-, -, h⟩ <;> linarith
    rw [(cmp_eq_gt_iff _ _).mpr hgt, (cmp_eq_gt_iff _ _).mpr above]

theorem at_least_iff {x y : Binary64} {a b : Quantity} (ha : x.quantity? = some a)
    (hb : y.quantity? = some b) : x.atLeast y = true ↔ b ≤ a := by
  rw [atLeast, compare_quantity, ha, hb]
  rcases lt_trichotomy a b with h | rfl | h
  · simp [(cmp_eq_lt_iff _ _).mpr h, h]
  · simp
  · simp [(cmp_eq_gt_iff _ _).mpr h, h.le]

theorem below_iff {x y : Binary64} {a b : Quantity} (ha : x.quantity? = some a)
    (hb : y.quantity? = some b) : x.below y = true ↔ a < b := by
  rw [below, compare_quantity, ha, hb]
  rcases lt_trichotomy a b with h | rfl | h
  · simp [(cmp_eq_lt_iff _ _).mpr h, h]
  · simp
  · simp [(cmp_eq_gt_iff _ _).mpr h, h.le]

/-- A double that passes both guards of the comparison is finite and in the range of 64 bits. -/
theorem in_range {d : Binary64} (hn : d.isNaN = false) (hi : d.atLeast intLimit = false)
    (lo : d.below intLimit.neg = false) :
    d.isFinite = true ∧ -2 ^ 63 ≤ d.value ∧ d.value < 2 ^ 63 := by
  obtain ⟨upper, lower⟩ := quantity_of_limit
  rcases d.finite_or with hd | hinf | h
  · have hq := quantity_of_finite hd
    have h₁ := (at_least_iff hq upper).not.mp (by simp [hi])
    have h₂ := (below_iff hq lower).not.mp (by simp [lo])
    rw [of_rat_strict_mono.le_iff_le, not_le] at h₁
    rw [of_rat_strict_mono.lt_iff_lt, not_lt] at h₂
    exact ⟨hd, h₂, h₁⟩
  · have hq : d.quantity? = some (if d.negative then ⊥ else ⊤) := by simp [quantity?, hn, hinf]
    cases hs : d.negative with
    | true =>
      have := (below_iff (hq.trans (by rw [hs]; rfl)) lower).mpr (bot_lt_of_rat _)
      simp [lo] at this
    | false =>
      have := (at_least_iff (hq.trans (by rw [hs]; rfl)) upper).mpr (of_rat_lt_top _).le
      simp [hi] at this
  · simp [hn] at h

theorem compare_int_quantity (n : Int64) (d : Binary64) :
    compareInt? n d = d.quantity?.map fun y => cmp (.ofRat n.toInt) y := by
  obtain ⟨upper, lower⟩ := quantity_of_limit
  unfold compareInt?
  cases hn : d.isNaN with
  | true => simp [quantity?, hn]
  | false =>
    obtain ⟨q, hq⟩ : ∃ q, d.quantity? = some q := by simp [quantity?, hn]
    rw [hq, Option.map_some, if_neg Bool.false_ne_true]
    -- Beyond either guard every integer of 64 bits is on the same side of the double.
    by_cases hi : d.atLeast intLimit = true
    · have above : Quantity.ofRat n.toInt < q :=
        (of_rat_strict_mono (by exact_mod_cast n.toInt_lt)).trans_le ((at_least_iff hq upper).mp hi)
      rw [if_pos hi, (cmp_eq_lt_iff _ _).mpr above]
    rw [if_neg hi]
    by_cases lo : d.below intLimit.neg = true
    · have below : q < Quantity.ofRat n.toInt :=
        ((below_iff hq lower).mp lo).trans_le
          (of_rat_strict_mono.monotone (by exact_mod_cast n.le_toInt))
      rw [if_pos lo, (cmp_eq_gt_iff _ _).mpr below]
    rw [if_neg lo]
    obtain ⟨hd, hlo, hhi⟩ := in_range hn (by simpa using hi) (by simpa using lo)
    obtain rfl : q = .ofRat d.value := by
      rw [quantity_of_finite hd] at hq
      exact (Option.some.inj hq).symm
    rw [of_rat_strict_mono.cmp_map_eq]
    -- Between them the whole part settles it, or what is left of the double behind it.
    simp only [to_int64_trunc hd hlo hhi, compare_zero_sub, value_trunc hd]
    by_cases same : n.toInt = d.whole
    · rw [same, ← cmp_eq_compare, cmp_self_eq_eq]
    · rw [← compare_whole same, ← cmp_eq_compare]
      cases h : cmp n.toInt d.whole with
      | eq => exact absurd ((cmp_eq_eq_iff _ _).mp h) same
      | lt => rfl
      | gt => rfl

end Binary64

namespace Value

def quantity? : Value → Option Quantity
  | int32 n => some (.ofRat n.toInt)
  | int64 n => some (.ofRat n.toInt)
  | double d => d.quantity?
  | _ => none

theorem number_cases (v : Value) :
    (∃ n : Int64, v.asInt? = some n ∧ v.quantity? = some (.ofRat n.toInt)) ∨
      (∃ d, v.asInt? = none ∧ v.asDouble? = some d ∧ v.quantity? = d.quantity?) ∨
      (v.asInt? = none ∧ v.asDouble? = none ∧ v.quantity? = none) := by
  cases v with
  | int32 n => exact .inl ⟨_, rfl, by rw [quantity?, Int32.toInt_toInt64]⟩
  | int64 n => exact .inl ⟨_, rfl, rfl⟩
  | double d => exact .inr (.inl ⟨d, rfl, rfl, rfl⟩)
  | _ => exact .inr (.inr ⟨rfl, rfl, rfl⟩)

theorem compare_eq_cmp (a b : Value) :
    a.compare? b = a.quantity?.bind fun x => b.quantity?.map fun y => cmp x y := by
  rw [compare?]
  rcases number_cases a with ⟨m, ha, qa⟩ | ⟨x, ha, xa, qa⟩ | ⟨ha, xa, qa⟩ <;>
    rcases number_cases b with ⟨n, hb, qb⟩ | ⟨y, hb, yb, qb⟩ | ⟨hb, yb, qb⟩
  · have h := (Int.cast_strictMono (R := ℚ)).cmp_map_eq m.toInt n.toInt
    simp [ha, hb, qa, qb, of_rat_strict_mono.cmp_map_eq, ← cmp_eq_compare, h]
  · simp [ha, hb, yb, qa, qb, Binary64.compare_int_quantity]
  · simp [ha, hb, yb, qa, qb]
  · cases hq : x.quantity? <;>
      simp [ha, hb, xa, qa, qb, hq, Binary64.compare_int_quantity, cmp_swap]
  · simp [ha, hb, xa, yb, qa, qb, Binary64.compare_quantity]
  · simp [ha, hb, xa, yb, qa, qb]
  · simp [ha, hb, xa, qa, qb]
  · simp [ha, hb, xa, qa]
  · simp [ha, hb, xa, qa]

theorem quantity_eq_none_iff (v : Value) : v.quantity? = none ↔
    v.isNumber = false ∨ ∃ d, v = double d ∧ d.isNaN = true := by
  cases v with
  | double d => simp [quantity?, isNumber, Binary64.quantity_eq_none_iff]
  | _ => simp [quantity?, isNumber]

/-- Two values compare unless one is no number or a NaN, and then as the quantities that they stand
for. Where an integer meets a double between the guards, the cast of the cut off double is exact. -/
theorem compare_exact (a b : Value) :
    (a.compare? b = none ↔
      ∃ v ∈ [a, b], v.isNumber = false ∨ ∃ d, v = double d ∧ d.isNaN = true) ∧
    (∀ x y, a.quantity? = some x → b.quantity? = some y → a.compare? b = some (cmp x y)) ∧
    ∀ d : Binary64, d.isNaN = false → d.atLeast Binary64.intLimit = false →
      d.below Binary64.intLimit.neg = false →
        (d.trunc.toInt64.toInt : ℚ) = d.trunc.value ∧
          d.trunc.toInt64.toInt = if d.negative then ⌈d.value⌉ else ⌊d.value⌋ := by
  refine ⟨?_, ?_, ?_⟩
  · have none_iff : a.compare? b = none ↔ a.quantity? = none ∨ b.quantity? = none := by
      rw [compare_eq_cmp]
      cases a.quantity? <;> cases b.quantity? <;> simp
    rw [none_iff, quantity_eq_none_iff, quantity_eq_none_iff]
    simp
  · intro x y hx hy
    rw [compare_eq_cmp, hx, hy]
    rfl
  · intro d hn hi lo
    obtain ⟨hd, hlo, hhi⟩ := Binary64.in_range hn hi lo
    have hw := Binary64.to_int64_trunc hd hlo hhi
    constructor
    · rw [hw, Binary64.value_trunc hd]
    · rw [hw, Binary64.whole_eq]

/-- `2 ^ 53 + 1` lies between two doubles, and the least integer of 64 bits is a double. -/
theorem compare_at_edges :
    let near : Binary64 := ⟨0x4340000000000000⟩
    let least : Binary64 := ⟨0xc3e0000000000000⟩
    near.quantity? = some (.ofRat (2 ^ 53)) ∧
      (int64 (2 ^ 53 + 1)).compare? (double near) = some .gt ∧
      least.isNaN = false ∧ least.atLeast Binary64.intLimit = false ∧
      least.below Binary64.intLimit.neg = false ∧
      (least.trunc.toInt64.toInt : ℚ) = least.trunc.value := by
  intro near least
  obtain ⟨-, ordered, cut⟩ := compare_exact (int64 (2 ^ 53 + 1)) (double near)
  have hs : near.significand = 2 ^ 52 := by decide
  have he : near.exponent = 1 := by decide
  have hn : near.negative = false := by decide
  have hq : near.quantity? = some (.ofRat (2 ^ 53)) := by
    rw [Binary64.quantity_of_finite (by decide), Binary64.value, hs, he, hn]
    norm_num
  have above : Quantity.ofRat (2 ^ 53) < .ofRat (2 ^ 53 + 1 : Int64).toInt := by
    have hi : (2 ^ 53 + 1 : Int64).toInt = 2 ^ 53 + 1 := by decide
    rw [hi]
    exact of_rat_strict_mono (by norm_num)
  refine ⟨hq, ?_, by decide, by decide, by decide, ?_⟩
  · rw [ordered _ _ rfl hq, (cmp_eq_gt_iff _ _).mpr above]
  · exact (cut least (by decide) (by decide) (by decide)).1

end Value

end Criteria
