import Mathlib.Order.Basic

/-!
# The order of texts

Texts are ordered by their characters. This is the order of their bytes.
-/

namespace Criteria

theorem char_bound (c : Char) : c.val.toNat < 0x110000 := by
  have valid := c.valid
  simp only [UInt32.isValidChar, Nat.isValidChar] at valid
  omega

section Digits

variable {m n : Nat}

theorem byte_lt_iff (hm : m < 256) (hn : n < 256) :
    UInt8.ofNat m < UInt8.ofNat n ↔ m < n := by
  rw [UInt8.lt_iff_toNat_lt, UInt8.toNat_ofNat_of_lt' hm, UInt8.toNat_ofNat_of_lt' hn]

theorem byte_eq_iff (hm : m < 256) (hn : n < 256) :
    UInt8.ofNat m = UInt8.ofNat n ↔ m = n := by
  rw [← UInt8.toNat_inj, UInt8.toNat_ofNat_of_lt' hm, UInt8.toNat_ofNat_of_lt' hn]

theorem digits_lt (h : m < n) : m / 64 < n / 64 ∨ m / 64 = n / 64 ∧ m % 64 < n % 64 := by
  omega

end Digits

/-- A smaller character has smaller bytes, whatever follows. -/
theorem char_bytes_lt {c d : Char} (h : c < d) (u v : List UInt8) :
    String.utf8EncodeChar c ++ u < String.utf8EncodeChar d ++ v := by
  have lt : c.val.toNat < d.val.toNat := h
  have bound := char_bound d
  unfold String.utf8EncodeChar
  generalize c.val.toNat = m at *
  generalize d.val.toNat = n at *
  dsimp only
  by_cases long : 65535 < m
  · -- Both have four bytes; the first digit to base 64 that is not the same decides.
    have shift (k : Nat) : k / 4096 = k / 64 / 64 ∧ k / 262144 = k / 64 / 64 / 64 := by omega
    iterate 3 rw [if_neg (by omega), if_neg (by omega)]
    simp only [List.cons_append, List.nil_append, List.cons_lt_cons_iff]
    repeat rw [byte_lt_iff (by omega) (by omega), byte_eq_iff (by omega) (by omega)]
    rw [(shift m).1, (shift m).2, (shift n).1, (shift n).2]
    rcases digits_lt lt with first | ⟨same, last⟩
    · rcases digits_lt first with second | ⟨same, last⟩
      · rcases digits_lt second with third | ⟨same, last⟩ <;> omega
      · omega
    · omega
  · split_ifs <;> simp only [List.cons_append, List.nil_append, List.cons_lt_cons_iff]
    all_goals repeat rw [byte_lt_iff (by omega) (by omega)]
    all_goals repeat rw [byte_eq_iff (by omega) (by omega)]
    all_goals omega

theorem flat_bytes_lt {a b : List Char} (h : a < b) :
    a.flatMap String.utf8EncodeChar < b.flatMap String.utf8EncodeChar := by
  induction a generalizing b with
  | nil =>
    cases b with
    | nil => exact absurd h (List.lt_irrefl _)
    | cons d b =>
      rw [List.flatMap_nil, List.flatMap_cons]
      obtain ⟨x, rest, hx⟩ := List.exists_cons_of_ne_nil (String.utf8EncodeChar_ne_nil (c := d))
      rw [hx]
      exact List.nil_lt_cons ..
  | cons c a ih =>
    cases b with
    | nil => exact absurd h (List.not_lt_nil _)
    | cons d b =>
      rw [List.flatMap_cons, List.flatMap_cons]
      rcases List.cons_lt_cons_iff.mp h with lt | ⟨rfl, rest⟩
      · exact char_bytes_lt lt _ _
      · exact List.append_left_lt (ih rest)

def bytes (text : String) : List UInt8 := text.toByteArray.data.toList

theorem bytes_eq (text : String) : bytes text = text.toList.flatMap String.utf8EncodeChar := by
  rw [bytes, ← String.utf8Encode_toList, List.utf8Encode, List.data_toByteArray]

/-- Texts that are in order have bytes in order. -/
theorem bytes_lt_of_lt {a b : String} (h : a < b) : bytes a < bytes b := by
  rw [bytes_eq, bytes_eq]
  exact flat_bytes_lt h

end Criteria
