import Criteria.Proofs.DocumentLookup
import Criteria.Proofs.MixedOrder
import Criteria.Value.Comparison

/-!
# Equality by meaning is symmetric and transitive

Neither of the two equalities of values is reflexive everywhere, as a NaN in a scope differs from
itself, but both are symmetric and transitive on values whose documents have each key once.
Documents are compared from one side only, so symmetry needs their keys to be counted; and numbers
of different kinds are equal through the quantities that they stand for.
-/

namespace Criteria

namespace Value

def parts : Value → List Value
  | array items => items
  | document fields => fields.map Prod.snd
  | codeWithScope _ scope => scope.map Prod.snd
  | _ => []

theorem part_smaller {v w : Value} (h : w ∈ v.parts) : sizeOf w < sizeOf v := by
  have field {fields : List (String × Value)} (h : w ∈ fields.map Prod.snd) :
      sizeOf w < sizeOf fields := by
    obtain ⟨⟨k, _⟩, hf, rfl⟩ := List.mem_map.mp h
    have := List.sizeOf_lt_of_mem hf
    simp at this ⊢
    omega
  cases v with
  | array items =>
    have := List.sizeOf_lt_of_mem (show w ∈ items from h)
    simp
    omega
  | document fields =>
    have := field h
    simp
    omega
  | codeWithScope source scope =>
    have := field h
    simp
    omega
  | _ => cases h

theorem parts_induction {motive : Value → Prop}
    (step : ∀ v, (∀ w ∈ v.parts, motive w) → motive v) (v : Value) : motive v :=
  step v fun w _ => parts_induction step w
termination_by sizeOf v
decreasing_by
  exact part_smaller ‹_›

theorem well_formed_items_iff {items : List Value} :
    WellFormedItems items ↔ ∀ v ∈ items, v.WellFormed := by
  induction items with
  | nil => simp [WellFormedItems]
  | cons v rest ih => simp [WellFormedItems, ih]

theorem well_formed_fields_iff {fields : List (String × Value)} :
    WellFormedFields fields ↔ ∀ field ∈ fields, field.2.WellFormed := by
  induction fields with
  | nil => simp [WellFormedFields]
  | cons field rest ih => simp [WellFormedFields, ih]

theorem well_formed_document_iff {fields : Document} : (document fields).WellFormed ↔
    fields.DistinctKeys ∧ ∀ field ∈ fields, field.2.WellFormed := by
  rw [WellFormed, well_formed_fields_iff]

theorem well_formed_scope_iff {source : String} {scope : Document} :
    (codeWithScope source scope).WellFormed ↔
      scope.DistinctKeys ∧ ∀ field ∈ scope, field.2.WellFormed := by
  rw [WellFormed, well_formed_fields_iff]

theorem WellFormed.part {v w : Value} (h : v.WellFormed) (hw : w ∈ v.parts) : w.WellFormed := by
  cases v with
  | array items =>
    rw [WellFormed] at h
    exact well_formed_items_iff.mp h w hw
  | document fields | codeWithScope _ fields =>
    rw [WellFormed] at h
    obtain ⟨field, hf, rfl⟩ := List.mem_map.mp hw
    exact well_formed_fields_iff.mp h.2 field hf
  | _ => cases hw

section Stored

attribute [local simp] storedEq storedItemsEq storedFieldsEq

abbrev Stored (a b : Value) : Prop := a.storedEq b = true

theorem stored_items_iff {xs ys : List Value} :
    storedItemsEq xs ys = true ↔ List.Forall₂ Stored xs ys := by
  induction xs generalizing ys with
  | nil => cases ys <;> simp
  | cons x xs ih => cases ys <;> simp [ih]

theorem stored_fields_iff {xs ys : Document} : storedFieldsEq xs ys = true ↔
    ∀ field ∈ xs, ∃ w, ys.get? field.1 = some w ∧ Stored field.2 w := by
  induction xs with
  | nil => simp
  | cons field rest ih =>
    cases h : List.lookup field.1 ys <;> simp [Document.get?, ih, h]

theorem stored_array_iff {xs : List Value} {b : Value} :
    Stored (array xs) b ↔ ∃ ys, b = array ys ∧ List.Forall₂ Stored xs ys := by
  cases b <;> simp [Stored, stored_items_iff]

theorem stored_document_iff {xs : Document} {b : Value} (hx : xs.DistinctKeys)
    (hb : b.WellFormed) :
    Stored (document xs) b ↔ ∃ ys, b = document ys ∧ Document.Alike Stored xs ys := by
  cases b with
  | document ys =>
    rw [WellFormed] at hb
    simp [Stored, stored_fields_iff, Document.alike_iff hx hb.1]
  | _ => simp [Stored]

theorem stored_scope_iff {source : String} {xs : Document} {b : Value} (hx : xs.DistinctKeys)
    (hb : b.WellFormed) : Stored (codeWithScope source xs) b ↔
      ∃ ys, b = codeWithScope source ys ∧ Document.Alike Stored xs ys := by
  cases b with
  | codeWithScope _ ys =>
    rw [WellFormed] at hb
    have ha := Document.alike_iff (R := Stored) hx hb.1
    simp only [Stored, storedEq, Bool.and_eq_true, beq_iff_eq, stored_fields_iff,
      codeWithScope.injEq]
    constructor
    · rintro ⟨⟨rfl, hl⟩, h⟩
      exact ⟨ys, ⟨rfl, rfl⟩, ha.mpr ⟨hl, h⟩⟩
    · rintro ⟨_, ⟨rfl, rfl⟩, h⟩
      exact ⟨⟨rfl, (ha.mp h).1⟩, (ha.mp h).2⟩
  | _ => simp [Stored]

theorem stored_double_iff {x : Binary64} {b : Value} : Stored (double x) b ↔
    ∃ y q, b = double y ∧ x.quantity? = some q ∧ y.quantity? = some q := by
  cases b <;> simp [Stored, Binary64.numeric_eq_iff]

def isPlain : Value → Bool
  | array _ | document _ | codeWithScope _ _ | double _ => false
  | _ => true

theorem stored_plain_iff {a b : Value} (h : a.isPlain = true) : Stored a b ↔ a = b := by
  cases a with
  | array _ | document _ | codeWithScope _ _ | double _ => cases h
  | _ => cases b <;> simp [Stored]

end Stored

abbrev Deep (a b : Value) : Prop := a.deepEqual b = true

/-- Quantities decide where there are two, and else the kinds. -/
theorem deep_equal_eq (a b : Value) : a.deepEqual b =
    match a.quantity?.bind fun x => b.quantity?.map fun y => cmp x y with
    | some order => order == .eq
    | none =>
      match a, b with
      | double x, double y => x.isNaN && y.isNaN
      | array xs, array ys => deepItemsEqual xs ys
      | document xs, document ys => xs.length == ys.length && deepFieldsEqual xs ys
      | _, _ => a.storedEq b := by
  have h := deepEqual.eq_def a b
  rw [compare_eq_cmp] at h
  exact h

theorem deep_items_iff {xs ys : List Value} :
    deepItemsEqual xs ys = true ↔ List.Forall₂ Deep xs ys := by
  induction xs generalizing ys with
  | nil => cases ys <;> simp [deepItemsEqual]
  | cons x xs ih => cases ys <;> simp [deepItemsEqual, ih]

theorem deep_fields_iff {xs ys : Document} : deepFieldsEqual xs ys = true ↔
    ∀ field ∈ xs, ∃ w, ys.get? field.1 = some w ∧ Deep field.2 w := by
  induction xs with
  | nil => simp [deepFieldsEqual]
  | cons field rest ih =>
    cases h : List.lookup field.1 ys <;> simp [deepFieldsEqual, Document.get?, ih, h]

theorem deep_double_iff {x y : Binary64} :
    Deep (double x) (double y) ↔ x.quantity? = y.quantity? := by
  rw [Deep, deep_equal_eq]
  have hx := Binary64.quantity_eq_none_iff (d := x)
  have hy := Binary64.quantity_eq_none_iff (d := y)
  cases qx : x.quantity? <;> cases qy : y.quantity? <;> simp_all [quantity?, cmp_eq_eq_iff]

theorem deep_number_iff {a b : Value} (h : a.isNumber = true) :
    Deep a b ↔ b.isNumber = true ∧ a.quantity? = b.quantity? := by
  cases a with
  | double x =>
    cases b with
    | double y => simp [deep_double_iff, isNumber, quantity?]
    | _ =>
      rw [Deep, deep_equal_eq]
      cases hx : x.quantity? <;> simp [quantity?, hx, storedEq, isNumber, cmp_eq_eq_iff]
  | int32 _ | int64 _ =>
    rw [Deep, deep_equal_eq]
    cases b with
    | double y =>
      cases hy : y.quantity? <;> simp [quantity?, hy, storedEq, isNumber, cmp_eq_eq_iff]
    | _ => simp [quantity?, storedEq, isNumber, cmp_eq_eq_iff]
  | _ => cases h

theorem quantity_of_no_number {v : Value} (h : v.isNumber = false) : v.quantity? = none := by
  cases v with
  | int32 _ | int64 _ | double _ => cases h
  | _ => rfl

theorem deep_array_iff {xs : List Value} {b : Value} :
    Deep (array xs) b ↔ ∃ ys, b = array ys ∧ List.Forall₂ Deep xs ys := by
  rw [Deep, deep_equal_eq]
  cases b <;> simp [quantity?, storedEq, deep_items_iff]

theorem deep_document_iff {xs : Document} {b : Value} (hx : xs.DistinctKeys)
    (hb : b.WellFormed) :
    Deep (document xs) b ↔ ∃ ys, b = document ys ∧ Document.Alike Deep xs ys := by
  rw [Deep, deep_equal_eq]
  cases b with
  | document ys =>
    rw [WellFormed] at hb
    simp [quantity?, deep_fields_iff, Document.alike_iff hx hb.1]
  | _ => simp [quantity?, storedEq]

def isOther : Value → Bool
  | array _ | document _ | double _ | int32 _ | int64 _ => false
  | _ => true

theorem deep_other_iff {a b : Value} (h : a.isOther = true) : Deep a b ↔ Stored a b := by
  rw [Deep, deep_equal_eq]
  cases a with
  | array _ | document _ | double _ | int32 _ | int64 _ => cases h
  | _ => simp [quantity?]

theorem stored_other {a b : Value} (ha : a.isOther = true) (h : Stored a b) :
    b.isOther = true := by
  cases a with
  | array _ | document _ | double _ | int32 _ | int64 _ => cases ha
  | codeWithScope source xs =>
    cases b with
    | codeWithScope _ _ => rfl
    | _ => simp [Stored, storedEq] at h
  | _ =>
    obtain rfl := (stored_plain_iff rfl).mp h
    rfl

/-- A relation is symmetric and transitive as far as one value is concerned. -/
structure PartialEquivAt (R : Value → Value → Prop) (v : Value) : Prop where
  symm : ∀ {w}, w.WellFormed → R v w → R w v
  trans : ∀ {w u}, w.WellFormed → u.WellFormed → R v w → R w u → R v u

section Containers

variable {R : Value → Value → Prop}

theorem forall₂_symm {xs ys : List Value} (h : List.Forall₂ R xs ys)
    (hR : ∀ x ∈ xs, ∀ y ∈ ys, R x y → R y x) : List.Forall₂ R ys xs := by
  induction h with
  | nil => exact .nil
  | cons h _ ih =>
    simp only [List.forall_mem_cons] at hR
    exact .cons (hR.1.1 h) (ih fun x hx => (hR.2 x hx).2)

theorem forall₂_trans {xs ys zs : List Value} (h : List.Forall₂ R xs ys)
    (k : List.Forall₂ R ys zs)
    (hR : ∀ x ∈ xs, ∀ y ∈ ys, ∀ z ∈ zs, R x y → R y z → R x z) : List.Forall₂ R xs zs := by
  induction h generalizing zs with
  | nil => exact k
  | cons h _ ih =>
    cases k with
    | cons k ks =>
      simp only [List.forall_mem_cons] at hR
      exact .cons (hR.1.1.1 h k) (ih ks fun x hx y hy => ((hR.2 x hx).2 y hy).2)

theorem PartialEquivAt.array
    (hR : ∀ {xs b}, R (array xs) b ↔ ∃ ys, b = Value.array ys ∧ List.Forall₂ R xs ys)
    {xs : List Value} (h : ∀ x ∈ xs, PartialEquivAt R x) : PartialEquivAt R (.array xs) := by
  constructor
  · intro w hw first
    obtain ⟨ys, rfl, hxy⟩ := hR.mp first
    exact hR.mpr ⟨xs, rfl, forall₂_symm hxy fun x hx y hy => (h x hx).symm (hw.part hy)⟩
  · intro w u hw hu first second
    obtain ⟨ys, rfl, hxy⟩ := hR.mp first
    obtain ⟨zs, rfl, hyz⟩ := hR.mp second
    exact hR.mpr ⟨zs, rfl, forall₂_trans hxy hyz fun x hx y hy z hz =>
      (h x hx).trans (hw.part hy) (hu.part hz)⟩

theorem PartialEquivAt.fields {wrap : Document → Value}
    (hwrap : ∀ {ys}, (wrap ys).WellFormed →
      ys.DistinctKeys ∧ ∀ field ∈ ys, field.2.WellFormed)
    (hR : ∀ {xs b}, xs.DistinctKeys → b.WellFormed →
      (R (wrap xs) b ↔ ∃ ys, b = wrap ys ∧ Document.Alike R xs ys))
    {xs : Document} (hxs : (wrap xs).WellFormed) (h : ∀ field ∈ xs, PartialEquivAt R field.2) :
    PartialEquivAt R (wrap xs) := by
  have hx := (hwrap hxs).1
  constructor
  · intro w hw first
    obtain ⟨ys, rfl, hxy⟩ := (hR hx hw).mp first
    obtain ⟨hy, py⟩ := hwrap hw
    exact (hR hy hxs).mpr ⟨xs, rfl, hxy.symm fun key v w hv hw => (h _ hv).symm (py _ hw)⟩
  · intro w u hw hu first second
    obtain ⟨ys, rfl, hxy⟩ := (hR hx hw).mp first
    obtain ⟨hy, py⟩ := hwrap hw
    obtain ⟨zs, rfl, hyz⟩ := (hR hy hu).mp second
    obtain ⟨hz, pz⟩ := hwrap hu
    exact (hR hx hu).mpr ⟨zs, rfl, hxy.trans hyz fun key v w u hv hw hu =>
      (h _ hv).trans (py _ hw) (pz _ hu)⟩

end Containers

theorem stored_partial_equiv {v : Value} (hv : v.WellFormed) : PartialEquivAt Stored v := by
  induction v using parts_induction with
  | step v ih =>
    have ih {w : Value} (hw : w ∈ v.parts) := ih w hw (hv.part hw)
    cases v with
    | array xs => exact .array stored_array_iff fun x hx => ih hx
    | document xs =>
      exact .fields well_formed_document_iff.mp stored_document_iff hv fun field hf =>
        ih (List.mem_map_of_mem hf)
    | codeWithScope source xs =>
      exact .fields well_formed_scope_iff.mp stored_scope_iff hv fun field hf =>
        ih (List.mem_map_of_mem hf)
    | double x =>
      constructor
      · intro w _ h
        obtain ⟨y, q, rfl, hx, hy⟩ := stored_double_iff.mp h
        exact stored_double_iff.mpr ⟨x, q, rfl, hy, hx⟩
      · intro w u _ _ h k
        obtain ⟨y, q, rfl, hx, hy⟩ := stored_double_iff.mp h
        obtain ⟨z, r, rfl, hy', hz⟩ := stored_double_iff.mp k
        exact stored_double_iff.mpr ⟨z, q, rfl, hx, by rw [hz, ← hy', hy]⟩
    | _ =>
      constructor
      · intro w _ h
        obtain rfl := (stored_plain_iff rfl).mp h
        exact h
      · intro w u _ _ h k
        obtain rfl := (stored_plain_iff rfl).mp h
        exact k

/-- Equality by meaning is symmetric and transitive around every well-formed value. -/
theorem deep_partial_equiv {v : Value} (hv : v.WellFormed) : PartialEquivAt Deep v := by
  induction v using parts_induction with
  | step v ih =>
    have ih {w : Value} (hw : w ∈ v.parts) := ih w hw (hv.part hw)
    have number (hn : v.isNumber = true) : PartialEquivAt Deep v := by
      constructor
      · intro w _ h
        obtain ⟨hw, hq⟩ := (deep_number_iff hn).mp h
        exact (deep_number_iff hw).mpr ⟨hn, hq.symm⟩
      · intro w u _ _ h k
        obtain ⟨hw, hq⟩ := (deep_number_iff hn).mp h
        obtain ⟨hu, hr⟩ := (deep_number_iff hw).mp k
        exact (deep_number_iff hn).mpr ⟨hu, hq.trans hr⟩
    have other (ho : v.isOther = true) : PartialEquivAt Deep v := by
      have stored := stored_partial_equiv hv
      constructor
      · intro w hw h
        have h := (deep_other_iff ho).mp h
        exact (deep_other_iff (stored_other ho h)).mpr (stored.symm hw h)
      · intro w u hw hu h k
        have h := (deep_other_iff ho).mp h
        have k := (deep_other_iff (stored_other ho h)).mp k
        exact (deep_other_iff ho).mpr (stored.trans hw hu h k)
    cases v with
    | array xs => exact .array deep_array_iff fun x hx => ih hx
    | document xs =>
      exact .fields well_formed_document_iff.mp deep_document_iff hv fun field hf =>
        ih (List.mem_map_of_mem hf)
    | int32 _ | int64 _ | double _ => exact number rfl
    | _ => exact other rfl

/-- Two well-formed values that are equal by meaning. -/
structure Same (a b : Value) : Prop where
  left : a.WellFormed
  right : b.WellFormed
  deep : Deep a b

namespace Same

variable {a b c : Value}

theorem symm (h : Same a b) : Same b a :=
  ⟨h.right, h.left, (deep_partial_equiv h.left).symm h.right h.deep⟩

theorem trans (h : Same a b) (k : Same b c) : Same a c :=
  ⟨h.left, k.right, (deep_partial_equiv h.left).trans h.right k.right h.deep k.deep⟩

theorem deep_equal_left (h : Same a b) (hc : c.WellFormed) : a.deepEqual c = b.deepEqual c := by
  rw [Bool.eq_iff_iff]
  exact ⟨fun k => (h.symm.trans ⟨h.left, hc, k⟩).deep, fun k => (h.trans ⟨h.right, hc, k⟩).deep⟩

theorem deep_equal_right (h : Same a b) (hc : c.WellFormed) :
    c.deepEqual a = c.deepEqual b := by
  rw [Bool.eq_iff_iff]
  exact ⟨fun k => (Same.trans ⟨hc, h.left, k⟩ h).deep,
    fun k => (Same.trans ⟨hc, h.right, k⟩ h.symm).deep⟩

theorem is_number (h : Same a b) : a.isNumber = b.isNumber := by
  rw [Bool.eq_iff_iff]
  exact ⟨fun hn => ((deep_number_iff hn).mp h.deep).1,
    fun hn => ((deep_number_iff hn).mp h.symm.deep).1⟩

theorem quantity (h : Same a b) : a.quantity? = b.quantity? := by
  cases ha : a.isNumber with
  | true => exact ((deep_number_iff ha).mp h.deep).2
  | false =>
    have hb : b.isNumber = false := by rw [← h.is_number, ha]
    rw [quantity_of_no_number ha, quantity_of_no_number hb]

theorem items {xs : List Value} (h : Same (array xs) b) :
    ∃ ys, b = array ys ∧ List.Forall₂ Same xs ys := by
  obtain ⟨ys, rfl, hxy⟩ := deep_array_iff.mp h.deep
  refine ⟨ys, rfl, List.forall₂_iff_get.mpr ⟨hxy.length_eq, fun i hi hj => ?_⟩⟩
  exact ⟨h.left.part (List.get_mem xs ⟨i, hi⟩), h.right.part (List.get_mem ys ⟨i, hj⟩),
    (List.forall₂_iff_get.mp hxy).2 i hi hj⟩

theorem fields {xs : Document} (h : Same (document xs) b) :
    ∃ ys, b = document ys ∧ Document.Alike Same xs ys := by
  obtain ⟨hx, px⟩ := well_formed_document_iff.mp h.left
  obtain ⟨ys, rfl, hxy⟩ := (deep_document_iff hx h.right).mp h.deep
  obtain ⟨hy, py⟩ := well_formed_document_iff.mp h.right
  refine ⟨ys, rfl, hxy.imp fun key v w hv hw k => ⟨px _ hv, py _ hw, k⟩⟩

end Same

end Value

end Criteria
