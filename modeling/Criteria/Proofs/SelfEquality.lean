import Criteria.Proofs.DeepEquality
import Criteria.Proofs.TwoPhase

/-!
# Values that differ from themselves

Equality as stored tells a NaN from itself, and equality by meaning does not. But the scope of code
is compared as stored wherever it stands, so a NaN in a scope makes every value around it differ
from itself. Nothing else does.
-/

namespace Criteria

namespace Value

inductive HoldsNaN : Value → Prop where
  | here {d : Binary64} (nan : d.isNaN = true) : HoldsNaN (double d)
  | part {v w : Value} (mem : w ∈ v.parts) (inner : HoldsNaN w) : HoldsNaN v

inductive HoldsNaNInScope : Value → Prop where
  | scope {source : String} {scope : Document} (held : HoldsNaN (codeWithScope source scope)) :
      HoldsNaNInScope (codeWithScope source scope)
  | part {v w : Value} (mem : w ∈ v.parts) (inner : HoldsNaNInScope w) : HoldsNaNInScope v

theorem alike_self_iff {R : Value → Value → Prop} {xs : Document} (hx : xs.DistinctKeys) :
    Document.Alike R xs xs ↔ ∀ v ∈ xs.map Prod.snd, R v v := by
  rw [Document.alike_iff hx hx, List.forall_mem_map]
  constructor
  · rintro ⟨-, h⟩ field hf
    obtain ⟨w, hw, hr⟩ := h field hf
    rw [hx.get?_eq_some_iff.mpr hf] at hw
    cases hw
    exact hr
  · intro h
    exact ⟨rfl, fun field hf => ⟨field.2, hx.get?_eq_some_iff.mpr hf, h field hf⟩⟩

theorem holds_nan_iff {v : Value} (hd : ∀ d, v ≠ double d) :
    v.HoldsNaN ↔ ∃ w ∈ v.parts, w.HoldsNaN := by
  constructor
  · intro h
    cases h with
    | here nan => exact absurd rfl (hd _)
    | part mem inner => exact ⟨_, mem, inner⟩
  · rintro ⟨w, mem, inner⟩
    exact .part mem inner

theorem stored_self_parts {v : Value} (hv : v.WellFormed) (hd : ∀ d, v ≠ double d) :
    Stored v v ↔ ∀ w ∈ v.parts, Stored w w := by
  cases v with
  | double d => exact absurd rfl (hd d)
  | array xs =>
    rw [stored_array_iff]
    simp [List.forall₂_same, parts]
  | document xs =>
    have hx := (well_formed_document_iff.mp hv).1
    rw [stored_document_iff hx hv]
    simp only [document.injEq, exists_eq_left', alike_self_iff hx, parts]
  | codeWithScope source xs =>
    have hx := (well_formed_scope_iff.mp hv).1
    rw [stored_scope_iff hx hv]
    simp only [codeWithScope.injEq, true_and, exists_eq_left', alike_self_iff hx, parts]
  | _ =>
    constructor
    · intro _ w hw
      cases hw
    · intro _
      exact (stored_plain_iff rfl).mpr rfl

theorem all_parts_iff {v : Value} {P Q : Value → Prop} (h : ∀ w ∈ v.parts, P w ↔ ¬Q w) :
    (∀ w ∈ v.parts, P w) ↔ ¬∃ w ∈ v.parts, Q w := by
  constructor
  · rintro all ⟨w, hw, held⟩
    exact (h w hw).mp (all w hw) held
  · intro none w hw
    exact (h w hw).mpr fun held => none ⟨w, hw, held⟩

theorem stored_self_iff {v : Value} (hv : v.WellFormed) : Stored v v ↔ ¬v.HoldsNaN := by
  induction v using parts_induction with
  | step v ih =>
    by_cases double? : ∃ d, v = double d
    · obtain ⟨d, rfl⟩ := double?
      have nan_iff : (double d).HoldsNaN ↔ d.isNaN = true := by
        constructor
        · intro h
          cases h with
          | here nan => exact nan
          | part mem _ => cases mem
        · exact .here
      rw [nan_iff, ← Binary64.quantity_eq_none_iff, stored_double_iff]
      cases h : d.quantity? <;> simp [h]
    · have hd : ∀ d, v ≠ double d := not_exists.mp double?
      rw [stored_self_parts hv hd, holds_nan_iff hd]
      apply all_parts_iff
      intro w hw
      exact ih w hw (hv.part hw)

/-- All kinds but code with a scope equal themselves by meaning if their parts do. -/
theorem deep_self_parts {v : Value} (hv : v.WellFormed)
    (hs : ∀ source scope, v ≠ codeWithScope source scope) :
    Deep v v ↔ ∀ w ∈ v.parts, Deep w w := by
  cases v with
  | codeWithScope source scope => exact absurd rfl (hs source scope)
  | array xs =>
    rw [deep_array_iff]
    simp [List.forall₂_same, parts]
  | document xs =>
    have hx := (well_formed_document_iff.mp hv).1
    rw [deep_document_iff hx hv]
    simp only [document.injEq, exists_eq_left', alike_self_iff hx, parts]
  | int32 _ | int64 _ | double _ =>
    constructor
    · intro _ w hw
      cases hw
    · intro _
      exact (deep_number_iff rfl).mpr ⟨rfl, rfl⟩
  | _ =>
    constructor
    · intro _ w hw
      cases hw
    · intro _
      exact (deep_other_iff rfl).mpr ((stored_plain_iff rfl).mpr rfl)

theorem HoldsNaNInScope.holds_nan {v : Value} (h : v.HoldsNaNInScope) : v.HoldsNaN := by
  induction h with
  | scope held => exact held
  | part mem _ ih => exact .part mem ih

theorem deep_self_iff {v : Value} (hv : v.WellFormed) : Deep v v ↔ ¬v.HoldsNaNInScope := by
  induction v using parts_induction with
  | step v ih =>
    by_cases scope? : ∃ source scope, v = codeWithScope source scope
    -- From a scope on everything is compared as stored.
    · obtain ⟨source, scope, rfl⟩ := scope?
      have scope_iff : (codeWithScope source scope).HoldsNaNInScope ↔
          (codeWithScope source scope).HoldsNaN := ⟨HoldsNaNInScope.holds_nan, .scope⟩
      rw [deep_other_iff rfl, stored_self_iff hv, scope_iff]
    · have hs : ∀ source scope, v ≠ codeWithScope source scope := fun source scope h =>
        scope? ⟨source, scope, h⟩
      have part_iff : v.HoldsNaNInScope ↔ ∃ w ∈ v.parts, w.HoldsNaNInScope := by
        constructor
        · intro h
          cases h with
          | scope _ => exact absurd rfl (hs _ _)
          | part mem inner => exact ⟨_, mem, inner⟩
        · rintro ⟨w, mem, inner⟩
          exact .part mem inner
      rw [deep_self_parts hv hs, part_iff]
      apply all_parts_iff
      intro w hw
      exact ih w hw (hv.part hw)

end Value

/-- A value equals itself by meaning, and so do the field that holds it and a query for it, unless
there is a NaN in a scope somewhere in it. -/
theorem equals_itself_unless_nan_in_scope {object : Document} {field : String} {v : Value}
    (hv : v.WellFormed) (hf : object.get? field = some v) (limit : Nat) :
    (v.deepEqual v = true ↔ ¬v.HoldsNaNInScope) ∧
      (Registry.builtin.run limit [("$equal", .document [(field, v)])] object).result =
        some (.ok (v.deepEqual v)) := by
  refine ⟨Value.deep_self_iff hv, ?_⟩
  have single : Builtin.equal.isCombinator = false := rfl
  have holds : Builtin.equal.fieldHolds field v object = v.deepEqual v := by
    rw [Builtin.fieldHolds, hf, fieldEqual]
  rw [← holds]
  exact run_of_predicate limit single field v object

/-- Outside of scopes a NaN is no obstacle, and neither is a scope without one. -/
theorem measured_value_equals_itself :
    let v : Value := .array [.double .nan, .codeWithScope "f" [("x", .regex "a" "i")]]
    v.WellFormed ∧ ¬v.HoldsNaNInScope ∧
      (Registry.builtin.run 0 [("$equal", .document [("a", v)])] [("a", v)]).result =
        some (.ok true) := by
  intro v
  have hv : v.WellFormed := by
    simp [v, Value.WellFormed, WellFormedFields, WellFormedItems, Document.DistinctKeys,
      Document.keys]
  have found : Document.get? [("a", v)] "a" = some v := rfl
  obtain ⟨iff, result⟩ := equals_itself_unless_nan_in_scope hv found 0
  have equal : v.deepEqual v = true := by decide
  exact ⟨hv, iff.mp equal, by rw [result, equal]⟩

/-- Code with a NaN in its scope is not found by a query for it. -/
theorem nan_in_scope_differs_from_itself :
    let v : Value := .codeWithScope "f" [("x", .double .nan)]
    v.WellFormed ∧ v.deepEqual v = false ∧
      (Registry.builtin.run 0 [("$equal", .document [("a", v)])] [("a", v)]).result =
        some (.ok false) := by
  intro v
  refine ⟨?_, by decide, by decide⟩
  simp [v, Value.WellFormed, WellFormedFields, Document.DistinctKeys, Document.keys]

end Criteria
