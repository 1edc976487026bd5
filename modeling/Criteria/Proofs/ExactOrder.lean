import Criteria.Number.Binary64
import Mathlib

/-!
# Exact quantities behind the order of numbers

Every finite double is a whole number of least subnormals, so its place in the order of words can be
settled among integers. From there the order of doubles is the order of rationals, with an infinity
on either side and no place for a NaN.
-/

namespace Criteria

theorem cmp_congr {α β : Type} [LinearOrder α] [LinearOrder β] {a b : α} {c d : β}
    (lt : a < b ↔ c < d) (gt : b < a ↔ d < c) : cmp a b = cmp c d := by
  simp [cmp, cmpUsing, lt, gt]

namespace Binary64

theorem biased_exponent_eq (d : Binary64) :
    d.biasedExponent = d.bits.toNat / 2 ^ 52 % 2 ^ 11 := rfl

theorem fraction_eq (d : Binary64) : d.fraction = d.bits.toNat % 2 ^ 52 := rfl

theorem magnitude_eq (d : Binary64) : d.magnitude = d.bits.toNat % 2 ^ 63 := rfl

@[irreducible] def depth : ℕ := 1074

@[irreducible] def scale : ℕ := 2 ^ depth

theorem scale_pos : 0 < scale := by
  rw [scale]
  exact Nat.two_pow_pos depth

theorem scale_split {e k : ℕ} (h : e + k = depth) : scale = 2 ^ k * 2 ^ e := by
  rw [scale, ← h, Nat.pow_add, Nat.mul_comm]

def unitsOf (magnitude : ℕ) : ℕ :=
  if magnitude / 2 ^ 52 = 0 then magnitude % 2 ^ 52
  else (2 ^ 52 + magnitude % 2 ^ 52) * 2 ^ (magnitude / 2 ^ 52 - 1)

theorem units_of_zero : unitsOf 0 = 0 := by decide

/-- A carry out of the fraction doubles the gap and keeps the order. -/
theorem units_of_strict_mono : StrictMono unitsOf := by
  apply strictMono_nat_of_lt_succ
  intro m
  unfold unitsOf
  by_cases hf : m % 2 ^ 52 + 1 < 2 ^ 52
  · have he : (m + 1) / 2 ^ 52 = m / 2 ^ 52 := by omega
    have hm : (m + 1) % 2 ^ 52 = m % 2 ^ 52 + 1 := by omega
    rw [he, hm]
    split
    · omega
    · exact Nat.mul_lt_mul_of_pos_right (by omega) (Nat.two_pow_pos _)
  · have he : (m + 1) / 2 ^ 52 = m / 2 ^ 52 + 1 := by omega
    have hm : (m + 1) % 2 ^ 52 = 0 := by omega
    rw [he, hm, if_neg (Nat.succ_ne_zero (m / 2 ^ 52))]
    by_cases h0 : m / 2 ^ 52 = 0
    · simp only [h0, if_true]
      omega
    · obtain ⟨e, h1⟩ := Nat.exists_eq_succ_of_ne_zero h0
      simp only [h1, Nat.succ_ne_zero, if_false, Nat.succ_eq_add_one, Nat.add_sub_cancel]
      calc (2 ^ 52 + m % 2 ^ 52) * 2 ^ e < 2 ^ 53 * 2 ^ e :=
            Nat.mul_lt_mul_of_pos_right (by omega) (Nat.two_pow_pos e)
        _ = (2 ^ 52 + 0) * 2 ^ (e + 1) := by rw [Nat.pow_succ]; ring

def units (d : Binary64) : ℕ := d.significand * 2 ^ (d.biasedExponent - 1)

theorem units_eq (d : Binary64) : d.units = unitsOf d.magnitude := by
  have he : d.magnitude / 2 ^ 52 = d.biasedExponent := by
    rw [magnitude_eq, biased_exponent_eq]
    omega
  have hf : d.magnitude % 2 ^ 52 = d.fraction := by
    rw [magnitude_eq, fraction_eq]
    omega
  unfold units unitsOf significand
  rw [he, hf]
  split
  · simp [*]
  · rfl

def signedUnits (d : Binary64) : ℤ := if d.negative then -(d.units : ℤ) else d.units

/-- `unitsOf` on both sides of zero. -/
def signedUnitsOf (rank : ℤ) : ℤ := rank.sign * unitsOf rank.natAbs

theorem signed_units_eq (d : Binary64) : d.signedUnits = signedUnitsOf d.rank := by
  unfold signedUnits signedUnitsOf rank
  rw [units_eq]
  by_cases h : d.magnitude = 0
  · simp [h, units_of_zero]
  · have hs : (d.magnitude : ℤ).sign = 1 := Int.sign_eq_one_of_pos (by omega)
    split <;> simp [hs]

theorem signed_units_of_strict_mono : StrictMono signedUnitsOf := by
  intro a b h
  unfold signedUnitsOf
  have lt {m n : ℕ} (h : m < n) : unitsOf m < unitsOf n := units_of_strict_mono h
  have pos {n : ℕ} (h : 0 < n) : 0 < unitsOf n := units_of_zero ▸ lt h
  rcases lt_trichotomy a 0 with ha | rfl | ha
  · have hna := pos (n := a.natAbs) (by omega)
    rw [Int.sign_eq_neg_one_of_neg ha]
    rcases lt_trichotomy b 0 with hb | rfl | hb
    · have := lt (show b.natAbs < a.natAbs by omega)
      rw [Int.sign_eq_neg_one_of_neg hb]
      omega
    · simp; omega
    · rw [Int.sign_eq_one_of_pos hb]
      omega
  · have := pos (n := b.natAbs) (by omega)
    rw [Int.sign_eq_one_of_pos h]
    simp; omega
  · have := lt (show a.natAbs < b.natAbs by omega)
    rw [Int.sign_eq_one_of_pos ha, Int.sign_eq_one_of_pos (by omega)]
    omega

theorem exponent_eq (d : Binary64) : d.exponent = ((d.biasedExponent - 1 : ℕ) : ℤ) - depth := by
  unfold exponent depth
  omega

theorem whole_magnitude_eq (d : Binary64) : d.wholeMagnitude = d.units / scale := by
  unfold wholeMagnitude units
  have h := d.exponent_eq
  generalize d.biasedExponent - 1 = e at h
  cases he : d.exponent with
  | ofNat k =>
    have hk : e = k + depth := by rw [he] at h; simp at h; omega
    simp only [Nat.pow_eq]
    rw [hk, Nat.pow_add, ← Nat.mul_assoc, ← scale]
    exact (Nat.mul_div_cancel _ scale_pos).symm
  | negSucc k =>
    have hk : e + (k + 1) = depth := by rw [he] at h; omega
    simp only [Nat.pow_eq]
    rw [scale_split hk, Nat.mul_div_mul_right _ _ (Nat.two_pow_pos e)]

def value (d : Binary64) : ℚ := (if d.negative then -1 else 1) * d.significand * 2 ^ d.exponent

theorem value_eq (d : Binary64) : d.value = d.signedUnits / scale := by
  have hz : (2 : ℚ) ^ d.exponent = 2 ^ (d.biasedExponent - 1) / scale := by
    rw [exponent_eq, zpow_sub₀ two_ne_zero, scale]
    norm_cast
  unfold value signedUnits units
  rw [hz]
  split <;> push_cast <;> ring

theorem scale_pos_rat : (0 : ℚ) < scale := by exact_mod_cast scale_pos

theorem scaled_strict_mono : StrictMono fun k : ℤ => (k : ℚ) / scale := fun a b hab =>
  div_lt_div_of_pos_right (by exact_mod_cast hab) scale_pos_rat

theorem value_lt_iff {x y : Binary64} : x.value < y.value ↔ x.rank < y.rank := by
  rw [value_eq, value_eq, signed_units_eq, signed_units_eq, scaled_strict_mono.lt_iff_lt,
    signed_units_of_strict_mono.lt_iff_lt]

end Binary64

/-- What a number stands for: a rational, or infinite on either side. -/
abbrev Quantity := WithBot (WithTop ℚ)

def Quantity.ofRat (q : ℚ) : Quantity := ((q : WithTop ℚ) : WithBot (WithTop ℚ))

theorem of_rat_strict_mono : StrictMono Quantity.ofRat :=
  WithBot.coe_strictMono.comp WithTop.coe_strictMono

theorem of_rat_lt_top (q : ℚ) : Quantity.ofRat q < ⊤ :=
  WithBot.coe_lt_coe.mpr (WithTop.coe_lt_top q)

theorem bot_lt_of_rat (q : ℚ) : ⊥ < Quantity.ofRat q := WithBot.bot_lt_coe _

namespace Binary64

def quantity? (d : Binary64) : Option Quantity :=
  if d.isNaN then none
  else some (if d.isInfinite then (if d.negative then ⊥ else ⊤) else .ofRat d.value)

theorem quantity_eq_none_iff {d : Binary64} : d.quantity? = none ↔ d.isNaN = true := by
  simp [quantity?]

theorem finite_or (d : Binary64) : d.isFinite = true ∨ d.isInfinite = true ∨ d.isNaN = true := by
  by_cases he : d.biasedExponent = 2047
  · by_cases hf : d.fraction = 0
    · exact .inr (.inl (by simp [isInfinite, he, hf]))
    · exact .inr (.inr (by simp [isNaN, he, hf]))
  · exact .inl (by simp [isFinite, he])

theorem quantity_of_finite {d : Binary64} (hd : d.isFinite = true) :
    d.quantity? = some (.ofRat d.value) := by
  have hn : d.isNaN = false := by simp_all [isFinite, isNaN]
  have hi : d.isInfinite = false := by simp_all [isFinite, isInfinite]
  simp [quantity?, hn, hi]

def edge : ℤ := 2047 * 2 ^ 52

theorem edge_pos : 0 < edge := by decide

theorem rank_of_infinite {d : Binary64} (h : d.isInfinite = true) :
    d.rank = if d.negative then -edge else edge := by
  simp only [isInfinite, Bool.and_eq_true, beq_iff_eq] at h
  rw [biased_exponent_eq, fraction_eq] at h
  rw [rank, magnitude_eq, edge]
  split <;> omega

theorem rank_of_finite {d : Binary64} (h : d.isFinite = true) : -edge < d.rank ∧ d.rank < edge := by
  simp only [isFinite, bne_iff_ne] at h
  rw [biased_exponent_eq] at h
  rw [rank, magnitude_eq, edge]
  split <;> omega

theorem quantity_cases {d : Binary64} {q : Quantity} (h : d.quantity? = some q) :
    (q = .ofRat d.value ∧ -edge < d.rank ∧ d.rank < edge) ∨
      (q = ⊤ ∧ d.rank = edge) ∨ (q = ⊥ ∧ d.rank = -edge) := by
  rcases d.finite_or with hd | hi | hn
  · rw [quantity_of_finite hd] at h
    exact .inl ⟨(Option.some.inj h).symm, rank_of_finite hd⟩
  · have hr := rank_of_infinite hi
    have hn : d.isNaN = false := by simp_all [isInfinite, isNaN]
    simp only [quantity?, hn, hi, if_true, Bool.false_eq_true, if_false, Option.some.injEq] at h
    cases hs : d.negative with
    | false => exact .inr (.inl ⟨by simpa [hs] using h.symm, by simpa [hs] using hr⟩)
    | true => exact .inr (.inr ⟨by simpa [hs] using h.symm, by simpa [hs] using hr⟩)
  · simp [quantity?, hn] at h

/-- The order of words is the order of quantities, infinite ones included. -/
theorem rank_lt_iff {x y : Binary64} {a b : Quantity} (ha : x.quantity? = some a)
    (hb : y.quantity? = some b) : x.rank < y.rank ↔ a < b := by
  have he := edge_pos
  rcases quantity_cases ha with ⟨rfl, lx, ux⟩ | ⟨rfl, rx⟩ | ⟨rfl, rx⟩ <;>
    rcases quantity_cases hb with ⟨rfl, ly, uy⟩ | ⟨rfl, ry⟩ | ⟨rfl, ry⟩
  · simp [value_lt_iff, of_rat_strict_mono.lt_iff_lt]
  · simp [ry, ux, of_rat_lt_top]
  · simp [ry, lx.le]
  · simp [rx, uy.le]
  · simp [rx, ry]
  · simp [rx, ry]; omega
  · simp [rx, ly, bot_lt_of_rat]
  · simp [rx, ry]; omega
  · simp [rx, ry]

theorem compare_quantity (x y : Binary64) :
    x.compare? y = x.quantity?.bind fun a => y.quantity?.map fun b => cmp a b := by
  cases ha : x.quantity? with
  | none => simp [compare?, quantity_eq_none_iff.mp ha]
  | some a =>
    cases hb : y.quantity? with
    | none => simp [compare?, quantity_eq_none_iff.mp hb]
    | some b =>
      have hx : x.isNaN = false := by simpa [ha] using (quantity_eq_none_iff (d := x)).not
      have hy : y.isNaN = false := by simpa [hb] using (quantity_eq_none_iff (d := y)).not
      simp [compare?, hx, hy, ← cmp_eq_compare,
        cmp_congr (rank_lt_iff ha hb) (rank_lt_iff hb ha)]

theorem numeric_eq_iff {x y : Binary64} :
    x.numericEq y = true ↔ ∃ q, x.quantity? = some q ∧ y.quantity? = some q := by
  rw [numericEq, compare_quantity]
  cases x.quantity? with
  | none => simp
  | some a =>
    cases y.quantity? with
    | none => simp
    | some b => simp [cmp_eq_eq_iff, eq_comm (a := b)]

end Binary64

end Criteria
