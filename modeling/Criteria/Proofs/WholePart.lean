import Criteria.Number.Rounding
import Criteria.Proofs.ExactOrder

/-!
# Whole parts and differences of doubles

Clearing the bits behind the point gives the value cut off toward zero, which is an integer of 64
bits wherever the value is in their range. A difference is rounded, but it is a whole number of
least subnormals, so it is never rounded to zero and keeps its sign.
-/

namespace Criteria

namespace Binary64

theorem magnitude_neg (d : Binary64) : d.neg.magnitude = d.magnitude := by
  rw [magnitude_eq, magnitude_eq, neg, UInt64.toNat_xor, Nat.xor_mod_two_pow]
  exact Nat.xor_zero _

theorem negative_neg (d : Binary64) : d.neg.negative = !d.negative := by
  have top : d.neg.bits.toNat / 2 ^ 63 = d.bits.toNat / 2 ^ 63 ^^^ 1 := by
    rw [neg, UInt64.toNat_xor, Nat.xor_div_two_pow]
    rfl
  have hb := d.bits.toNat_lt
  have hn := d.neg.bits.toNat_lt
  unfold negative
  rw [Bool.eq_iff_iff, Bool.not_eq_true', decide_eq_true_iff, decide_eq_false_iff_not]
  have one : d.bits.toNat / 2 ^ 63 = 0 ∨ d.bits.toNat / 2 ^ 63 = 1 := by omega
  rcases one with h | h
  · rw [h] at top
    have : d.neg.bits.toNat / 2 ^ 63 = 1 := top
    simp only [Nat.pow_eq]
    omega
  · rw [h] at top
    have : d.neg.bits.toNat / 2 ^ 63 = 0 := top
    simp only [Nat.pow_eq]
    omega

theorem magnitude_with_sign (s : Bool) (d : Binary64) : (d.withSign s).magnitude = d.magnitude := by
  cases s with
  | false => rfl
  | true => exact d.magnitude_neg

theorem is_nan_congr {x y : Binary64} (h : x.magnitude = y.magnitude) : x.isNaN = y.isNaN := by
  rw [magnitude_eq, magnitude_eq] at h
  have he : x.biasedExponent = y.biasedExponent := by
    rw [biased_exponent_eq, biased_exponent_eq]
    omega
  have hf : x.fraction = y.fraction := by
    rw [fraction_eq, fraction_eq]
    omega
  rw [isNaN, isNaN, he, hf]

theorem rank_with_sign {d : Binary64} (h : d.negative = false) (s : Bool) :
    (d.withSign s).rank = if s then -(d.magnitude : ℤ) else d.magnitude := by
  cases s with
  | false => simp [withSign, rank, h]
  | true => simp [withSign, rank, negative_neg, magnitude_neg, h]

theorem le_div_half_even (num den : ℕ) : num / den ≤ divHalfEven num den := by
  unfold divHalfEven
  dsimp only
  split
  · exact le_rfl
  · split
    · exact Nat.le_succ _
    · split
      · exact le_rfl
      · exact Nat.le_succ _

theorem scaled_quotient_of_depth (num den : ℕ) {k : ℕ} (h : k + 1 = depth) :
    scaledQuotient num den (.negSucc k) = divHalfEven (num * scale) den := by
  rw [scaledQuotient, h, scale, Nat.pow_eq]

theorem word_pos {num den : ℕ} (hd : 0 < den) (h : den ≤ num * scale) :
    0 < (unitExponent num den + 1074).toNat * Nat.pow 2 52 +
      scaledQuotient num den (unitExponent num den) := by
  have least : -1074 ≤ unitExponent num den := le_max_right _ _
  rcases least.eq_or_lt with he | he
  · have hq : scaledQuotient num den (-1074) = divHalfEven (num * scale) den :=
      scaled_quotient_of_depth num den (k := 1073) (by unfold depth; rfl)
    have hpos : 0 < num * scale / den := Nat.div_pos h hd
    have := le_div_half_even (num * scale) den
    rw [← he, hq]
    omega
  · have hpos : 0 < (unitExponent num den + 1074).toNat := by omega
    exact Nat.add_pos_left (Nat.mul_pos hpos (Nat.two_pow_pos 52)) _

theorem of_ratio_sign {num den : ℕ} (s : Bool) (hd : 0 < den) (h : den ≤ num * scale) :
    ∃ m : ℕ, 0 < m ∧ (ofRatio s num den).isNaN = false ∧
      (ofRatio s num den).rank = if s then -(m : ℤ) else m := by
  have hn : num ≠ 0 := by
    rintro rfl
    omega
  have hw := word_pos hd h
  unfold ofRatio
  rw [if_neg (by simp [hn, hd.ne'])]
  dsimp only
  generalize (unitExponent num den + 1074).toNat * Nat.pow 2 52 +
    scaledQuotient num den (unitExponent num den) = word at hw ⊢
  by_cases big : 0x7ff0000000000000 ≤ word
  · rw [if_pos big]
    refine ⟨infinity.magnitude, by decide, ?_, rank_with_sign (by decide) s⟩
    rw [is_nan_congr (magnitude_with_sign s infinity)]
    decide
  · rw [if_neg big]
    have hb : (UInt64.ofNat word).toNat = word := UInt64.toNat_ofNat_of_lt' (by
      simp only [UInt64.size]
      omega)
    have hs : (⟨UInt64.ofNat word⟩ : Binary64).negative = false := by
      simp only [negative, hb, Nat.pow_eq]
      exact decide_eq_false (by omega)
    have hm : (⟨UInt64.ofNat word⟩ : Binary64).magnitude = word := by
      rw [magnitude_eq, hb]
      omega
    refine ⟨word, hw, ?_, ?_⟩
    · rw [is_nan_congr (magnitude_with_sign s _), isNaN, biased_exponent_eq]
      have : word / 2 ^ 52 % 2 ^ 11 ≠ 2047 := by omega
      rw [hb, beq_false_of_ne this, Bool.false_and]
    · rw [rank_with_sign hs, hm]

theorem compare_zero_of_ratio (s : Bool) {num den : ℕ} (hd : 0 < den)
    (h : num ≠ 0 → den ≤ num * scale) : zero.compare? (ofRatio s num den) =
      some (if num = 0 then .eq else if s then .gt else .lt) := by
  have hzero : zero.isNaN = false := by decide
  have hr : zero.rank = 0 := by decide
  by_cases hn : num = 0
  · subst hn
    rw [ofRatio, if_pos (by simp), if_pos rfl]
    cases s <;> rfl
  · obtain ⟨m, hm, hnan, hrank⟩ := of_ratio_sign s hd (h hn)
    rw [compare?, hnan, hzero, hr, hrank, if_neg hn, ← cmp_eq_compare]
    cases s with
    | true => simp [cmp, cmpUsing, hm]
    | false => simp [cmp, cmpUsing, hm]

theorem ratio_den_pos (d : Binary64) : 0 < d.toRatio.2 := by
  unfold toRatio
  split
  · exact Nat.one_pos
  · exact Nat.two_pow_pos _

theorem value_eq_ratio (d : Binary64) :
    d.value = (if d.negative then -(d.toRatio.1 : ℤ) else d.toRatio.1 : ℤ) / (d.toRatio.2 : ℚ) := by
  unfold value toRatio
  cases d.exponent with
  | ofNat e =>
    cases d.negative <;> simp
  | negSucc e =>
    cases d.negative <;> simp [zpow_negSucc, div_eq_mul_inv]

theorem scaled_value {d : Binary64} {m j k : ℕ} (hr : d.toRatio = (m, j)) :
    (((if d.negative then -(m * k : ℕ) else (m * k : ℕ) : ℤ) : ℤ) : ℚ) = d.value * (j * k) := by
  have hv := d.value_eq_ratio
  have hj := d.ratio_den_pos
  rw [hr] at hv hj
  have hne : (j : ℚ) ≠ 0 := by exact_mod_cast hj.ne'
  rw [hv]
  cases d.negative <;> simp <;> field_simp

/-- Over a common denominator, values that differ do so by a least subnormal at least. -/
theorem den_le_difference {x y : Binary64} {left right : ℤ} {den : ℕ} (hd : 0 < den)
    (hl : (left : ℚ) = x.value * den) (hr : (right : ℚ) = y.value * den)
    (h : (left - right).natAbs ≠ 0) : den ≤ (left - right).natAbs * scale := by
  have units : (left - right) * scale = (x.signedUnits - y.signedUnits) * (den : ℤ) := by
    have hs := scale_pos_rat.ne'
    rw [← Int.cast_inj (α := ℚ)]
    push_cast
    rw [hl, hr, x.value_eq, y.value_eq]
    field_simp
  have abs := congrArg Int.natAbs units
  rw [Int.natAbs_mul, Int.natAbs_mul, Int.natAbs_natCast, Int.natAbs_natCast] at abs
  rw [abs]
  refine Nat.le_mul_of_pos_left _ (Nat.pos_of_ne_zero fun hz => ?_)
  rw [hz, Nat.zero_mul] at abs
  exact (Nat.mul_pos (Nat.pos_of_ne_zero h) scale_pos).ne' abs

/-- The rounded difference has the sign of the exact one. -/
theorem compare_zero_sub (x y : Binary64) :
    zero.compare? (x.sub y) = some (cmp y.value x.value) := by
  obtain ⟨m, j, hx⟩ : ∃ m j, x.toRatio = (m, j) := ⟨_, _, rfl⟩
  obtain ⟨n, k, hy⟩ : ∃ n k, y.toRatio = (n, k) := ⟨_, _, rfl⟩
  have hj : 0 < j := by simpa [hx] using x.ratio_den_pos
  have hk : 0 < k := by simpa [hy] using y.ratio_den_pos
  have hl := scaled_value (k := k) hx
  have hr := scaled_value (k := j) hy
  rw [mul_comm (k : ℚ)] at hr
  unfold sub
  simp only [hx, hy]
  generalize (if x.negative then -(m * k : ℕ) else (m * k : ℕ) : ℤ) = left at hl ⊢
  generalize (if y.negative then -(n * j : ℕ) else (n * j : ℕ) : ℤ) = right at hr ⊢
  have hden : (0 : ℚ) < j * k := by positivity
  have lt_iff : left < right ↔ x.value < y.value := by
    rw [← Int.cast_lt (R := ℚ), hl, hr, mul_lt_mul_iff_left₀ hden]
  have gt_iff : right < left ↔ y.value < x.value := by
    rw [← Int.cast_lt (R := ℚ), hl, hr, mul_lt_mul_iff_left₀ hden]
  rw [cmp_congr gt_iff.symm lt_iff.symm]
  have hle := den_le_difference (Nat.mul_pos hj hk) (by rw [hl, Nat.cast_mul])
    (by rw [hr, Nat.cast_mul])
  rw [compare_zero_of_ratio _ (Nat.mul_pos hj hk) hle]
  rcases lt_trichotomy left right with h | h | h
  · have hne : (left - right).natAbs ≠ 0 := by omega
    rw [if_neg hne, if_neg h.ne, (cmp_eq_gt_iff _ _).mpr h, decide_eq_true h]
    rfl
  · rw [h, sub_self, cmp_self_eq_eq]
    rfl
  · have hne : (left - right).natAbs ≠ 0 := by omega
    rw [if_neg hne, if_neg h.ne', (cmp_eq_lt_iff _ _).mpr h, decide_eq_false h.le.not_gt]
    rfl

theorem trunc_of_large {d : Binary64} (h : 1023 ≤ d.biasedExponent) :
    d.trunc.biasedExponent = d.biasedExponent ∧ d.trunc.negative = d.negative ∧
      d.trunc.fraction = d.fraction - d.fraction % 2 ^ (1075 - d.biasedExponent) := by
  have hb := d.bits.toNat_lt
  have hk : d.bitsBehindPoint = 1075 - d.biasedExponent := if_neg (by omega)
  have cleared : d.bits.toNat % 2 ^ (1075 - d.biasedExponent) =
      d.fraction % 2 ^ (1075 - d.biasedExponent) := by
    rw [fraction_eq, Nat.mod_mod_of_dvd]
    exact Nat.pow_dvd_pow 2 (by omega)
  have hle := Nat.mod_le d.fraction (2 ^ (1075 - d.biasedExponent))
  have hw : d.trunc.bits.toNat =
      d.bits.toNat - d.fraction % 2 ^ (1075 - d.biasedExponent) := by
    simp only [trunc, hk, Nat.pow_eq, cleared]
    exact UInt64.toNat_ofNat_of_lt' (by simp only [UInt64.size]; omega)
  generalize d.fraction % 2 ^ (1075 - d.biasedExponent) = r at hw hle ⊢
  rw [fraction_eq] at hle
  refine ⟨?_, ?_, ?_⟩
  · rw [biased_exponent_eq, biased_exponent_eq, hw]
    omega
  · unfold negative
    rw [hw, Nat.pow_eq, decide_eq_decide]
    omega
  · rw [fraction_eq, fraction_eq, hw]
    omega

theorem trunc_of_small {d : Binary64} (h : d.biasedExponent < 1023) :
    d.trunc.magnitude = 0 ∧ d.trunc.negative = d.negative := by
  have hb := d.bits.toNat_lt
  have hk : d.bitsBehindPoint = 63 := if_pos h
  have hw : d.trunc.bits.toNat = d.bits.toNat - d.bits.toNat % 2 ^ 63 := by
    simp only [trunc, hk, Nat.pow_eq]
    exact UInt64.toNat_ofNat_of_lt' (by simp only [UInt64.size]; omega)
  constructor
  · rw [magnitude_eq, hw]
    omega
  · unfold negative
    rw [hw, Nat.pow_eq, decide_eq_decide]
    omega

theorem significand_lt (d : Binary64) : d.significand < 2 ^ 53 := by
  have hf : d.fraction < 2 ^ 52 := Nat.mod_lt _ (by decide)
  unfold significand
  rw [Nat.pow_eq]
  split <;> omega

theorem units_lt_scale {d : Binary64} (h : d.biasedExponent < 1023) : d.units < scale := by
  obtain ⟨e, he⟩ : ∃ e, d.biasedExponent - 1 + 53 + e = depth := ⟨1021 - (d.biasedExponent - 1), by
    unfold depth
    omega⟩
  have hpos := Nat.two_pow_pos e
  calc d.units < 2 ^ 53 * 2 ^ (d.biasedExponent - 1) :=
        Nat.mul_lt_mul_of_pos_right d.significand_lt (Nat.two_pow_pos _)
    _ ≤ 2 ^ 53 * 2 ^ (d.biasedExponent - 1) * 2 ^ e := Nat.le_mul_of_pos_right _ hpos
    _ = scale := by
      rw [scale, ← he, Nat.pow_add, Nat.pow_add]
      ring

/-- Clearing what is behind the point leaves the multiple of `scale` that is next below. -/
theorem cleared_units {e f : ℕ} (h : 1023 ≤ e) :
    (2 ^ 52 + (f - f % 2 ^ (1075 - e))) * 2 ^ (e - 1) =
      (2 ^ 52 + f) * 2 ^ (e - 1) / scale * scale := by
  by_cases large : 1075 ≤ e
  · obtain ⟨k, hk⟩ : ∃ k, e - 1 = k + depth := ⟨e - 1075, by
      unfold depth
      omega⟩
    rw [Nat.sub_eq_zero_of_le large, Nat.pow_zero, Nat.mod_one, Nat.sub_zero, hk, Nat.pow_add,
      ← scale, ← Nat.mul_assoc, Nat.mul_div_cancel _ scale_pos]
  · have hk : e - 1 + (1075 - e) = depth := by
      unfold depth
      omega
    have hdvd : 2 ^ (1075 - e) ∣ 2 ^ 52 := Nat.pow_dvd_pow 2 (by omega)
    have hmod : (2 ^ 52 + f) % 2 ^ (1075 - e) = f % 2 ^ (1075 - e) := by
      rw [Nat.add_mod, Nat.mod_eq_zero_of_dvd hdvd, Nat.zero_add, Nat.mod_mod]
    have hle := Nat.mod_le f (2 ^ (1075 - e))
    have hdiv := Nat.div_add_mod' (2 ^ 52 + f) (2 ^ (1075 - e))
    rw [hmod] at hdiv
    rw [scale_split hk, Nat.mul_div_mul_right _ _ (Nat.two_pow_pos _), ← Nat.mul_assoc]
    congr 1
    omega

theorem trunc_units {d : Binary64} (hd : d.isFinite = true) :
    d.trunc.isFinite = true ∧ d.trunc.negative = d.negative ∧
      d.trunc.units = d.units / scale * scale := by
  by_cases h : d.biasedExponent < 1023
  · obtain ⟨hm, hn⟩ := trunc_of_small h
    have he : d.trunc.biasedExponent = 0 := by
      rw [magnitude_eq] at hm
      rw [biased_exponent_eq]
      omega
    refine ⟨by simp [isFinite, he], hn, ?_⟩
    rw [units_eq, hm, units_of_zero, Nat.div_eq_of_lt (units_lt_scale h), Nat.zero_mul]
  · obtain ⟨he, hn, hf⟩ := trunc_of_large (Nat.le_of_not_lt h)
    have hsig (d : Binary64) (h : ¬d.biasedExponent < 1023) :
        d.significand = 2 ^ 52 + d.fraction := if_neg (by omega)
    refine ⟨by simpa [isFinite, he] using hd, hn, ?_⟩
    rw [units, units, hsig _ (he ▸ h), hsig d h, he, hf]
    exact cleared_units (Nat.le_of_not_lt h)

theorem whole_trunc {d : Binary64} (hd : d.isFinite = true) : d.trunc.whole = d.whole := by
  obtain ⟨-, hn, hu⟩ := trunc_units hd
  rw [whole, whole, whole_magnitude_eq, whole_magnitude_eq, hn, hu,
    Nat.mul_div_cancel _ scale_pos]

theorem value_trunc {d : Binary64} (hd : d.isFinite = true) : d.trunc.value = d.whole := by
  obtain ⟨-, hn, hu⟩ := trunc_units hd
  have hs := scale_pos_rat.ne'
  rw [value_eq, signedUnits, whole, whole_magnitude_eq, hn, hu]
  cases d.negative with
  | false => simp [hs]
  | true =>
    simp only [if_true]
    push_cast
    rw [neg_div, mul_div_cancel_right₀ _ hs]

theorem whole_eq (d : Binary64) : d.whole = if d.negative then ⌈d.value⌉ else ⌊d.value⌋ := by
  have hfloor : ⌊(d.units : ℚ) / scale⌋ = (d.units / scale : ℕ) := by
    rw [Rat.floor_natCast_div_natCast]
    rfl
  rw [whole, whole_magnitude_eq, value_eq, signedUnits]
  cases d.negative with
  | false => simpa using hfloor.symm
  | true =>
    simp only [if_true]
    push_cast
    rw [neg_div, Int.ceil_neg, hfloor]
    rfl

/-- In the range of 64 bits the whole part is hit exactly. -/
theorem to_int64_trunc {d : Binary64} (hd : d.isFinite = true) (lo : -2 ^ 63 ≤ d.value)
    (hi : d.value < 2 ^ 63) : d.trunc.toInt64.toInt = d.whole := by
  have hlo : -2 ^ 63 ≤ d.whole := by
    rw [whole_eq]
    split
    · exact_mod_cast lo.trans (Int.le_ceil _)
    · exact Int.le_floor.mpr (by exact_mod_cast lo)
  have hhi : d.whole < 2 ^ 63 := by
    cases hn : d.negative with
    | true =>
      rw [whole, if_pos hn]
      omega
    | false =>
      rw [whole_eq, hn]
      exact Int.floor_lt.mpr (by exact_mod_cast hi)
  obtain ⟨hf, -, -⟩ := trunc_units hd
  have hn : d.trunc.isNaN = false := by simp_all [isFinite, isNaN]
  have hinf : d.trunc.isInfinite = false := by simp_all [isFinite, isInfinite]
  rw [toInt64, hn, hinf, whole_trunc hd]
  exact Int64.toInt_ofIntClamp hlo (by
    have : Int64.maxValue.toInt = 2 ^ 63 - 1 := rfl
    omega)

end Binary64

end Criteria
