import Criteria.Proofs.DeepEquality

/-!
# Canonical forms

The canonical form of a value keeps what equality by meaning looks at: the quantity of a number in
place of the number, and a map in place of an ordered list of fields. A value of any other kind
stays as it is, scopes included. Two values are equal by meaning when their forms are the same.
-/

namespace Criteria

inductive Canonical where
  /-- All NaNs are the one point without a quantity. -/
  | number (quantity : Option Quantity)
  | array (items : List Canonical)
  | document (fields : String → Option Canonical)
  | kept (value : Value)

/-- Sameness of forms. What was kept is compared as stored. -/
inductive Canonical.Same : Canonical → Canonical → Prop where
  | number (q : Option Quantity) : Same (number q) (number q)
  | array {xs ys : List Canonical} (items : List.Forall₂ Same xs ys) : Same (array xs) (array ys)
  | document {f g : String → Option Canonical} (fields : ∀ key, Option.Rel Same (f key) (g key)) :
      Same (document f) (document g)
  | kept {v w : Value} (equal : v.storedEq w = true) : Same (kept v) (kept w)

mutual

def Value.canonical : Value → Canonical
  | .int32 n => .number (some (.ofRat n.toInt))
  | .int64 n => .number (some (.ofRat n.toInt))
  | .double d => .number d.quantity?
  | .array items => .array (canonicalItems items)
  | .document fields => .document (canonicalField fields)
  | v => .kept v

def canonicalItems : List Value → List Canonical
  | [] => []
  | v :: rest => v.canonical :: canonicalItems rest

def canonicalField : List (String × Value) → String → Option Canonical
  | [], _ => none
  | (k, v) :: rest, key => if key = k then some v.canonical else canonicalField rest key

end

namespace Canonical

theorem same_number_iff {q : Option Quantity} {c : Canonical} :
    Same (number q) c ↔ c = number q := by
  constructor
  · intro h
    cases h
    rfl
  · rintro rfl
    exact .number q

theorem same_array_iff {xs : List Canonical} {c : Canonical} :
    Same (array xs) c ↔ ∃ ys, c = array ys ∧ List.Forall₂ Same xs ys := by
  constructor
  · intro h
    cases h with
    | array items => exact ⟨_, rfl, items⟩
  · rintro ⟨ys, rfl, items⟩
    exact .array items

theorem same_document_iff {f : String → Option Canonical} {c : Canonical} :
    Same (document f) c ↔ ∃ g, c = document g ∧ ∀ key, Option.Rel Same (f key) (g key) := by
  constructor
  · intro h
    cases h with
    | document fields => exact ⟨_, rfl, fields⟩
  · rintro ⟨g, rfl, fields⟩
    exact .document fields

theorem same_kept_iff {v : Value} {c : Canonical} :
    Same (kept v) c ↔ ∃ w, c = kept w ∧ v.storedEq w = true := by
  constructor
  · intro h
    cases h with
    | kept equal => exact ⟨_, rfl, equal⟩
  · rintro ⟨w, rfl, equal⟩
    exact .kept equal

end Canonical

namespace Value

theorem canonical_items_eq (items : List Value) :
    canonicalItems items = items.map canonical := by
  induction items with
  | nil => rfl
  | cons v rest ih => rw [canonicalItems, ih, List.map_cons]

theorem canonical_field_eq (fields : Document) (key : String) :
    canonicalField fields key = (fields.get? key).map canonical := by
  induction fields with
  | nil => rfl
  | cons field rest ih =>
    obtain ⟨k, v⟩ := field
    rw [canonicalField, Document.get?_cons, ih]
    split <;> rfl

theorem canonical_of_number {v : Value} (h : v.isNumber = true) :
    v.canonical = .number v.quantity? := by
  cases v with
  | int32 _ | int64 _ | double _ => rw [canonical, quantity?]
  | _ => cases h

theorem canonical_of_other {v : Value} (h : v.isOther = true) : v.canonical = .kept v := by
  cases v with
  | array _ | document _ | double _ | int32 _ | int64 _ => cases h
  | _ => rw [canonical] <;> simp

theorem canonical_number_iff {v : Value} {q : Option Quantity} :
    v.canonical = .number q ↔ v.isNumber = true ∧ v.quantity? = q := by
  cases v <;> simp [canonical, isNumber, quantity?]

theorem canonical_kept {v w : Value} (h : v.canonical = .kept w) : v.isOther = true ∧ v = w := by
  cases v <;> simp_all [canonical, isOther]

theorem canonical_array_iff {v : Value} {forms : List Canonical} :
    v.canonical = .array forms ↔ ∃ items, v = array items ∧ items.map canonical = forms := by
  cases v <;> simp [canonical, canonical_items_eq]

theorem canonical_document_iff {v : Value} {form : String → Option Canonical} :
    v.canonical = .document form ↔
      ∃ fields, v = document fields ∧ canonicalField fields = form := by
  cases v <;> simp [canonical]

theorem same_items_iff {xs ys : List Value}
    (h : ∀ x ∈ xs, ∀ y ∈ ys, Deep x y ↔ x.canonical.Same y.canonical) :
    List.Forall₂ Deep xs ys ↔
      List.Forall₂ Canonical.Same (xs.map canonical) (ys.map canonical) := by
  rw [List.forall₂_map_left_iff, List.forall₂_map_right_iff, List.forall₂_iff_get,
    List.forall₂_iff_get]
  refine and_congr_right fun _ => forall_congr' fun i => forall_congr' fun hi =>
    forall_congr' fun hj => ?_
  exact h _ (List.get_mem xs ⟨i, hi⟩) _ (List.get_mem ys ⟨i, hj⟩)

theorem same_fields_iff {xs ys : Document}
    (h : ∀ key v w, (key, v) ∈ xs → (key, w) ∈ ys → (Deep v w ↔ v.canonical.Same w.canonical)) :
    Document.Alike Deep xs ys ↔
      ∀ key, Option.Rel Canonical.Same (canonicalField xs key) (canonicalField ys key) := by
  refine forall_congr' fun key => ?_
  rw [canonical_field_eq, canonical_field_eq]
  cases hx : xs.get? key with
  | none => cases ys.get? key <;> simp
  | some v =>
    cases hy : ys.get? key with
    | none => simp
    | some w =>
      have hvw := h key v w (Document.mem_of_get? hx) (Document.mem_of_get? hy)
      simpa using hvw

theorem deep_iff_same {a b : Value} (ha : a.WellFormed) (hb : b.WellFormed) :
    Deep a b ↔ a.canonical.Same b.canonical := by
  -- By the parts of `a`: either relation gives `b` the kind of `a`, and parts to go with its parts.
  induction a using parts_induction generalizing b with
  | step a ih =>
    have number (hn : a.isNumber = true) : Deep a b ↔ a.canonical.Same b.canonical := by
      rw [deep_number_iff hn, canonical_of_number hn, Canonical.same_number_iff,
        canonical_number_iff, eq_comm (a := a.quantity?)]
    have other (ho : a.isOther = true) : Deep a b ↔ a.canonical.Same b.canonical := by
      rw [deep_other_iff ho, canonical_of_other ho, Canonical.same_kept_iff]
      constructor
      · intro h
        exact ⟨b, canonical_of_other (stored_other ho h), h⟩
      · rintro ⟨w, hw, h⟩
        obtain ⟨-, rfl⟩ := canonical_kept hw
        exact h
    cases a with
    | array xs =>
      have items (ys : List Value) (hy : (array ys).WellFormed) : List.Forall₂ Deep xs ys ↔
          List.Forall₂ Canonical.Same (xs.map canonical) (ys.map canonical) := by
        apply same_items_iff
        intro x hx y hm
        exact ih x hx (ha.part hx) (hy.part hm)
      rw [deep_array_iff, canonical, Canonical.same_array_iff, canonical_items_eq]
      constructor
      · rintro ⟨ys, rfl, h⟩
        exact ⟨_, canonical_array_iff.mpr ⟨ys, rfl, rfl⟩, (items ys hb).mp h⟩
      · rintro ⟨forms, hf, h⟩
        obtain ⟨ys, rfl, rfl⟩ := canonical_array_iff.mp hf
        exact ⟨ys, rfl, (items ys hb).mpr h⟩
    | document xs =>
      have fields (ys : Document) (hy : (document ys).WellFormed) : Document.Alike Deep xs ys ↔
          ∀ key, Option.Rel Canonical.Same (canonicalField xs key) (canonicalField ys key) := by
        apply same_fields_iff
        intro key v w hv hw
        have hx : v ∈ (document xs).parts := List.mem_map.mpr ⟨_, hv, rfl⟩
        have hm : w ∈ (document ys).parts := List.mem_map.mpr ⟨_, hw, rfl⟩
        exact ih v hx (ha.part hx) (hy.part hm)
      rw [deep_document_iff (well_formed_document_iff.mp ha).1 hb, canonical,
        Canonical.same_document_iff]
      constructor
      · rintro ⟨ys, rfl, h⟩
        exact ⟨_, canonical_document_iff.mpr ⟨ys, rfl, rfl⟩, (fields ys hb).mp h⟩
      · rintro ⟨form, hf, h⟩
        obtain ⟨ys, rfl, rfl⟩ := canonical_document_iff.mp hf
        exact ⟨ys, rfl, (fields ys hb).mpr h⟩
    | int32 _ | int64 _ | double _ => exact number rfl
    | _ => exact other rfl

/-- On values whose documents have each key once, equality by meaning is sameness of canonical
forms, and it is symmetric and transitive. -/
theorem deep_equal_of_canonical_forms {a b c : Value} (ha : a.WellFormed) (hb : b.WellFormed)
    (hc : c.WellFormed) :
    (a.deepEqual b = true ↔ a.canonical.Same b.canonical) ∧
      a.deepEqual b = b.deepEqual a ∧
        (a.deepEqual b = true → b.deepEqual c = true → a.deepEqual c = true) := by
  have around_a := deep_partial_equiv ha
  have around_b := deep_partial_equiv hb
  refine ⟨deep_iff_same ha hb, ?_, ?_⟩
  · rw [Bool.eq_iff_iff]
    constructor
    · intro h
      exact around_a.symm hb h
    · intro h
      exact around_b.symm ha h
  · intro first second
    exact around_a.trans hb hc first second

theorem reordered_values_same_form :
    let left := document [("n", int32 1), ("items", array [double .nan, double Binary64.zero.neg])]
    let middle := document [("items", array [double Binary64.nan.neg, int64 0]), ("n", int64 1)]
    let right :=
      document [("n", double ⟨0x3ff0000000000000⟩), ("items", array [double .nan, int32 0])]
    (left.WellFormed ∧ middle.WellFormed ∧ right.WellFormed) ∧
      left.canonical.Same middle.canonical ∧ left.deepEqual right = true := by
  intro left middle right
  have hl : left.WellFormed := by
    simp [left, WellFormed, WellFormedFields, WellFormedItems, Document.DistinctKeys, Document.keys]
  have hm : middle.WellFormed := by
    simp [middle, WellFormed, WellFormedFields, WellFormedItems, Document.DistinctKeys,
      Document.keys]
  have hr : right.WellFormed := by
    simp [right, WellFormed, WellFormedFields, WellFormedItems, Document.DistinctKeys,
      Document.keys]
  obtain ⟨form, -, chain⟩ := deep_equal_of_canonical_forms hl hm hr
  exact ⟨⟨hl, hm, hr⟩, form.mp (by decide +kernel), chain (by decide +kernel) (by decide +kernel)⟩

end Value

end Criteria
