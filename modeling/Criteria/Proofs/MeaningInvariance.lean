import Criteria.Proofs.DeepEquality
import Criteria.Proofs.TwoPhase

/-!
# Matches respect equality by meaning

Equal objects and equal queries give equal answers, whatever the order of their fields and the kinds
of their numbers. The two sides are replaced one after the other. With equal objects a query keeps
its whole list of failures, up to the texts of values; with equal queries failures may change their
order, but it stays the same whether there are any.
-/

namespace Criteria

def Failure.withoutText : Failure → Failure
  | unknownOperator name => unknownOperator name
  | typeMismatch operator side reason _ => typeMismatch operator side reason ""

@[simp] theorem Failure.without_text_of_value (operator : String) (side : Side) (reason : String)
    (value : Option Value) : (ofValue operator side reason value).withoutText =
      .typeMismatch operator side reason "" := rfl

namespace Value

/-- Values of these kinds are no texts, no patterns and no marks. They may be equal by meaning
without being the same value. -/
def isBlunt : Value → Bool
  | int32 _ | int64 _ | double _ | array _ | document _ | codeWithScope _ _ => true
  | _ => false

theorem Same.eq_or_blunt {a b : Value} (h : Same a b) :
    a = b ∨ (a.isBlunt = true ∧ b.isBlunt = true) := by
  cases a with
  | int32 _ | int64 _ | double _ =>
    have hb : b.isNumber = true := h.is_number.symm
    cases b with
    | int32 _ | int64 _ | double _ => exact .inr ⟨rfl, rfl⟩
    | _ => cases hb
  | array xs =>
    obtain ⟨ys, rfl, -⟩ := h.items
    exact .inr ⟨rfl, rfl⟩
  | document xs =>
    obtain ⟨ys, rfl, -⟩ := h.fields
    exact .inr ⟨rfl, rfl⟩
  | codeWithScope source xs =>
    have hx := (well_formed_scope_iff.mp h.left).1
    obtain ⟨ys, rfl, -⟩ := (stored_scope_iff hx h.right).mp ((deep_other_iff rfl).mp h.deep)
    exact .inr ⟨rfl, rfl⟩
  | _ => exact .inl ((stored_plain_iff rfl).mp ((deep_other_iff rfl).mp h.deep))

end Value

open Value (Same)

namespace Builtin

section Objects

variable {field : String} {o₁ o₂ : Document} {v w : Value}

theorem any_deep_equal {xs ys : List Value} (h : List.Forall₂ Same xs ys)
    (hw : w.WellFormed) : (xs.any fun x => x.deepEqual w) = ys.any fun y => y.deepEqual w := by
  induction h with
  | nil => rfl
  | cons h _ ih => rw [List.any_cons, List.any_cons, h.deep_equal_left hw, ih]

theorem holds_text_of_blunt (h : v.isBlunt = true) : holdsText (some v) = false := by
  cases v with
  | string _ => cases h
  | _ => rfl

theorem holds_list_of_same (h : Same v w) : holdsList (some v) = holdsList (some w) := by
  have forward {v w : Value} (h : Same v w) (hl : holdsList (some v) = true) :
      holdsList (some w) = true := by
    cases v with
    | array xs =>
      obtain ⟨ys, rfl, -⟩ := h.items
      rfl
    | _ => cases hl
  rw [Bool.eq_iff_iff]
  exact ⟨forward h, forward h.symm⟩

theorem field_failure_of_same_object (self : Builtin) (operand : Value)
    (h : Option.Rel Same (o₁.get? field) (o₂.get? field)) :
    (self.fieldFailure? field operand o₁).map Failure.withoutText =
      (self.fieldFailure? field operand o₂).map Failure.withoutText := by
  unfold fieldFailure?
  generalize o₁.get? field = x at h
  generalize o₂.get? field = y at h
  cases h with
  | none => rfl
  | @some v w h =>
    rcases h.eq_or_blunt with rfl | ⟨hv, hw⟩
    · rfl
    · cases self with
      | contain =>
        simp only [holds_text_of_blunt hv, holds_text_of_blunt hw, holds_list_of_same h]
        cases holdsList (some w) <;> rfl
      | pattern => simp [holds_text_of_blunt hv, holds_text_of_blunt hw]
      | gt | lt =>
        simp only [Option.any_some, h.is_number]
        cases w.isNumber <;> rfl
      | _ => rfl

theorem contain_not {operand : Value} {object : Document}
    (ht : holdsText (object.get? field) = false) (hl : holdsList (object.get? field) = false) :
    contain.fieldHolds field operand object = false := by
  unfold fieldHolds
  generalize object.get? field = actual at ht hl
  cases actual with
  | none => rfl
  | some v =>
    cases v with
    | string _ => cases ht
    | array _ => cases hl
    | _ => rfl

theorem pattern_not {operand : Value} {object : Document}
    (ht : holdsText (object.get? field) = false) :
    pattern.fieldHolds field operand object = false := by
  unfold fieldHolds
  generalize object.get? field = actual at ht
  cases actual with
  | none => rfl
  | some v =>
    cases v with
    | string _ => cases ht
    | _ => rfl

theorem field_holds_of_same_object (self : Builtin) {operand : Value}
    (h : Option.Rel Same (o₁.get? field) (o₂.get? field)) (hw : operand.WellFormed) :
    self.fieldHolds field operand o₁ = self.fieldHolds field operand o₂ := by
  cases h₁ : o₁.get? field <;> cases h₂ : o₂.get? field <;> rw [h₁, h₂] at h <;> cases h
  · simp [fieldHolds, h₁, h₂]
  · rename_i v w h
    cases self with
    | and | or | not => simp [fieldHolds]
    | equal => simpa [fieldHolds, h₁, h₂, fieldEqual] using h.deep_equal_left hw
    | gt | lt => simp [fieldHolds, h₁, h₂, Value.compare_eq_cmp, h.quantity]
    | contain =>
      rcases h.eq_or_blunt with rfl | ⟨hv, hw'⟩
      · simp [fieldHolds, h₁, h₂]
      · by_cases hl : holdsList (some v)
        · cases v with
          | array xs =>
            obtain ⟨ys, rfl, hxy⟩ := h.items
            simpa [fieldHolds, h₁, h₂] using any_deep_equal hxy hw
          | _ => cases hl
        · rw [contain_not (by rw [h₁, holds_text_of_blunt hv]) (by simpa [h₁] using hl),
            contain_not (by rw [h₂, holds_text_of_blunt hw'])
              (by simpa [h₂, ← holds_list_of_same h] using hl)]
    | pattern =>
      rcases h.eq_or_blunt with rfl | ⟨hv, hw⟩
      · simp [fieldHolds, h₁, h₂]
      · rw [pattern_not (by rw [h₁, holds_text_of_blunt hv]),
          pattern_not (by rw [h₂, holds_text_of_blunt hw])]

end Objects

theorem clause_of_same_object {o₁ o₂ : Document} (h : Document.Alike Same o₁ o₂)
    (self : Builtin) (key : String) (operand : Value) (hw : operand.WellFormed) :
    (self.clauseFailures key operand o₁).map Failure.withoutText =
        (self.clauseFailures key operand o₂).map Failure.withoutText ∧
      self.clauseTruth key operand o₁ = self.clauseTruth key operand o₂ := by
  induction self, key, operand using clause_induction with
  | predicate self key operand hc =>
    have hf := field_failure_of_same_object self operand (h key)
    simp only [clause_failures_of_predicate hc, clause_truth_of_predicate hc]
    exact ⟨by simpa [← Option.toList_map] using congrArg Option.toList hf,
      field_holds_of_same_object self (h key) hw⟩
  | unknown self key operand hc hk =>
    simp only [clause_failures_of_unknown hc hk, clause_truth_of_unknown hc hk, and_self]
  | scalar self key operand b hc hk ho =>
    simp only [clause_failures_of_scalar hc hk ho, clause_truth_of_scalar hc hk ho, and_self]
  | body self key b clauses hc hk ih =>
    have part := (Value.well_formed_document_iff.mp hw).2
    have ih {clause : String × Value} (hm : clause ∈ clauses) := ih clause hm (part clause hm)
    simp only [clause_failures_of_body hc hk, clause_truth_of_body hc hk, failures_eq_flat_map,
      holds, truths_eq_map, List.map_flatMap]
    constructor
    · exact List.flatMap_congr fun clause hm => (ih hm).1
    · rw [List.map_congr_left fun clause hm => (ih hm).2]

section Queries

variable {field : String} {object : Document} {x y : Value}

theorem pattern_failure_of_blunt (h : x.isBlunt = true) :
    pattern.fieldFailure? field x object =
      if holdsText (object.get? field) then
        some (.ofValue pattern.name .definition "not a regex" x)
      else some (.ofValue pattern.name .object "not a string" (object.get? field)) := by
  cases x with
  | regex _ _ => cases h
  | _ => rfl

theorem field_equal_of_blunt (h : x.isBlunt = true) : fieldEqual none x = false := by
  cases x with
  | undefined => cases h
  | _ => rfl

theorem text_holds_of_blunt {self : Builtin} (hs : self = contain ∨ self = pattern)
    {text : String} (ha : object.get? field = some (.string text)) (h : x.isBlunt = true) :
    self.fieldHolds field x object = false := by
  rcases hs with rfl | rfl
  all_goals
    cases x with
    | string _ | regex _ _ => cases h
    | _ => simp [fieldHolds, ha]

theorem field_failure_of_same_operand (field : String) (object : Document) (self : Builtin)
    (h : Same x y) :
    (self.fieldFailure? field x object).map Failure.withoutText =
      (self.fieldFailure? field y object).map Failure.withoutText := by
  rcases h.eq_or_blunt with rfl | ⟨hx, hy⟩
  · rfl
  · cases self with
    | pattern =>
      rw [pattern_failure_of_blunt hx, pattern_failure_of_blunt hy]
      split <;> rfl
    | gt | lt =>
      simp only [fieldFailure?, h.is_number]
      split
      · split <;> rfl
      · rfl
    | _ => rfl

theorem field_holds_of_same_operand (self : Builtin) (h : Same x y)
    (ho : ∀ v, object.get? field = some v → v.WellFormed) :
    self.fieldHolds field x object = self.fieldHolds field y object := by
  rcases h.eq_or_blunt with rfl | ⟨hx, hy⟩
  · rfl
  · cases ha : object.get? field with
    | none =>
      cases self with
      | equal => simp [fieldHolds, ha, field_equal_of_blunt, hx, hy]
      | _ => simp [fieldHolds, ha]
    | some v =>
      cases self with
      | and | or | not => simp [fieldHolds]
      | equal => simpa [fieldHolds, ha, fieldEqual] using h.deep_equal_right (ho v ha)
      | gt | lt => simp [fieldHolds, ha, Value.compare_eq_cmp, h.quantity]
      | contain =>
        cases v with
        | string text =>
          rw [text_holds_of_blunt (.inl rfl) ha hx, text_holds_of_blunt (.inl rfl) ha hy]
        | array items =>
          have part {item : Value} (hm : item ∈ items) : item.WellFormed := (ho _ ha).part hm
          simp only [fieldHolds, ha]
          rw [Bool.eq_iff_iff, List.any_eq_true, List.any_eq_true]
          refine exists_congr fun item => and_congr_right fun hm => ?_
          rw [h.deep_equal_right (part hm)]
        | _ => simp [fieldHolds, ha]
      | pattern =>
        cases v with
        | string text =>
          rw [text_holds_of_blunt (.inr rfl) ha hx, text_holds_of_blunt (.inr rfl) ha hy]
        | _ => simp [fieldHolds, ha]

/-- Under each combinator only the set of truth values counts. -/
theorem combine_of_same_members (self : Builtin) {ts us : List Bool}
    (h : ∀ t, t ∈ ts ↔ t ∈ us) : self.combineTruths ts = self.combineTruths us := by
  have hall (f : Bool → Bool) : ts.all f = us.all f := by
    rw [Bool.eq_iff_iff, List.all_eq_true, List.all_eq_true]
    exact forall_congr' fun t => imp_congr_left (h t)
  have hany (f : Bool → Bool) : ts.any f = us.any f := by
    rw [List.any_eq_not_all_not, List.any_eq_not_all_not, hall]
  have hempty : ts.isEmpty = us.isEmpty := by
    rw [Bool.eq_iff_iff, List.isEmpty_iff, List.isEmpty_iff, List.eq_nil_iff_forall_not_mem,
      List.eq_nil_iff_forall_not_mem]
    exact forall_congr' fun t => not_congr (h t)
  unfold combineTruths
  rw [hall, hall, hany, hempty]

theorem clause_of_same_operand (ho : (Value.document object).WellFormed) (self : Builtin)
    (key : String) (x : Value) : ∀ y, Same x y →
      (self.clauseFailures key x object = [] ↔ self.clauseFailures key y object = []) ∧
        self.clauseTruth key x object = self.clauseTruth key y object := by
  induction self, key, x using clause_induction with
  | predicate self key x hc =>
    intro y h
    have hf := congrArg Option.isNone (field_failure_of_same_operand key object self h)
    rw [Option.isNone_map, Option.isNone_map] at hf
    simp only [clause_failures_of_predicate hc, clause_truth_of_predicate hc,
      Option.toList_eq_nil_iff]
    constructor
    · rw [← Option.isNone_iff_eq_none, hf, Option.isNone_iff_eq_none]
    · exact field_holds_of_same_operand self h fun v hv =>
        (Value.well_formed_document_iff.mp ho).2 _ (Document.mem_of_get? hv)
  | unknown self key x hc hk =>
    intro y h
    simp only [clause_failures_of_unknown hc hk, clause_truth_of_unknown hc hk, and_self]
  | scalar self key x b hc hk hx =>
    intro y h
    have hy : ∀ clauses, y ≠ .document clauses := by
      rintro clauses rfl
      obtain ⟨xs, rfl, -⟩ := h.symm.fields
      exact hx xs rfl
    simp [clause_failures_of_scalar hc hk hx, clause_failures_of_scalar hc hk hy,
      clause_truth_of_scalar hc hk hx, clause_truth_of_scalar hc hk hy]
  | body self key b xs hc hk ih =>
    intro y h
    obtain ⟨ys, rfl, hxy⟩ := h.fields
    simp only [clause_failures_of_body hc hk, clause_truth_of_body hc hk, failures_eq_flat_map,
      holds, truths_eq_map, List.flatMap_eq_nil_iff]
    have hx := (Value.well_formed_document_iff.mp h.left).1
    have hy := (Value.well_formed_document_iff.mp h.right).1
    constructor
    · exact hxy.forall_congr hx hy fun key v w hm hvw => (ih _ hm w hvw).1
    · refine combine_of_same_members b fun t => not_iff_not.mp ?_
      simp only [List.mem_map, not_exists, not_and]
      refine hxy.forall_congr hx hy fun key v w hm hvw => ?_
      rw [(ih _ hm w hvw).2]

end Queries

end Builtin

open Builtin

section Matches

variable {q₁ q₂ o₁ o₂ : Document}

theorem query_on_same_object (h : Same (.document o₁) (.document o₂))
    (hq : (Value.document q₁).WellFormed) :
    (failures .and q₁ o₁).map Failure.withoutText = (failures .and q₁ o₂).map Failure.withoutText ∧
      holds .and q₁ o₁ = holds .and q₁ o₂ := by
  obtain ⟨_, ⟨⟩, h⟩ := h.fields
  rw [failures_of_query, failures_of_query, holds_of_query, holds_of_query]
  exact clause_of_same_object h .and rootOperator (.document q₁) hq

theorem same_query_on_object (h : Same (.document q₁) (.document q₂))
    (ho : (Value.document o₁).WellFormed) :
    (failures .and q₁ o₁ = [] ↔ failures .and q₂ o₁ = []) ∧
      holds .and q₁ o₁ = holds .and q₂ o₁ := by
  rw [failures_of_query, failures_of_query, holds_of_query, holds_of_query]
  exact clause_of_same_operand ho .and rootOperator (.document q₁) (.document q₂) h

/-- Equal queries give equal answers on equal objects, and fail together. One query on equal objects
also fails for the same reason; the texts of the values may differ. -/
theorem match_respects_deep_equality (limit : Nat)
    (hq₁ : (Value.document q₁).WellFormed) (hq₂ : (Value.document q₂).WellFormed)
    (ho₁ : (Value.document o₁).WellFormed) (ho₂ : (Value.document o₂).WellFormed)
    (hq : (Value.document q₁).deepEqual (.document q₂) = true)
    (ho : (Value.document o₁).deepEqual (.document o₂) = true) :
    (Registry.builtin.run limit q₁ o₁).result.isSome = true ∧
      (∀ b, (Registry.builtin.run limit q₁ o₁).result = some (.ok b) ↔
        (Registry.builtin.run limit q₂ o₂).result = some (.ok b)) ∧
      ((∃ f, (Registry.builtin.run limit q₁ o₁).result = some (.error f)) ↔
        ∃ f, (Registry.builtin.run limit q₂ o₂).result = some (.error f)) ∧
      (q₁ = q₂ → ∀ f₁ f₂, (Registry.builtin.run limit q₁ o₁).result = some (.error f₁) →
        (Registry.builtin.run limit q₂ o₂).result = some (.error f₂) →
          f₁.withoutText = f₂.withoutText) := by
  obtain ⟨causes, truth⟩ := query_on_same_object ⟨ho₁, ho₂, ho⟩ hq₁
  obtain ⟨none_iff, truth'⟩ := same_query_on_object ⟨hq₁, hq₂, hq⟩ ho₂
  have empty : failures .and q₁ o₁ = [] ↔ failures .and q₂ o₂ = [] := by
    rw [← none_iff, ← List.map_eq_nil_iff, causes, List.map_eq_nil_iff]
  rw [run_result, run_result]
  simp only [Option.some.injEq]
  refine ⟨rfl, fun b => ?_, ?_, ?_⟩
  · rw [settle_eq_ok_iff, settle_eq_ok_iff, empty, truth, truth']
  · rw [settle_fails_iff, settle_fails_iff, Ne, empty]
  · rintro rfl f₁ f₂ h₁ h₂
    rw [settle_eq_error_iff] at h₁ h₂
    have h := congrArg List.head? causes
    simpa [h₁, h₂] using h

theorem reordered_match_agrees :
    (Registry.builtin.run 0
      [("$or", .document
          [("$equal", .document [("rate", .double Binary64.nan.neg), ("size", .int64 2)])]),
        ("$gt", .document [("size", .int32 1)])]
      [("size", .double ⟨0x4000000000000000⟩), ("rate", .double .nan)]).result =
        some (.ok true) := by
  refine ((@match_respects_deep_equality
    [("$gt", .document [("size", .int64 1)]),
      ("$or", .document [("$equal", .document [("size", .int32 2), ("rate", .double .nan)])])]
    _ [("rate", .double .nan), ("size", .int32 2)] _ 0 ?_ ?_ ?_ ?_ ?_ ?_).2.1 true).mp rfl
  any_goals decide
  all_goals simp [Value.WellFormed, WellFormedFields, Document.DistinctKeys, Document.keys]

end Matches

end Criteria
