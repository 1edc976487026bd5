import Criteria.Value
import Mathlib.Data.List.Nodup
import Mathlib.Data.List.Perm.Basic

/-!
# Fields of documents

A document with distinct keys is known by what it answers for each key. Two such documents can be
alike up to a relation on their values, in whatever order their fields are.
-/

namespace Criteria

namespace Document

theorem get?_eq_none_iff {d : Document} {key : String} : d.get? key = none ↔ key ∉ d.keys := by
  induction d with
  | nil => simp [get?, keys]
  | cons field rest ih =>
    obtain ⟨k, v⟩ := field
    rw [get?_cons]
    by_cases h : key = k
    · simp [h, keys]
    · simpa [h, keys] using ih

theorem mem_of_get? {d : Document} {key : String} {v : Value} (h : d.get? key = some v) :
    (key, v) ∈ d := by
  obtain ⟨front, back, rfl, -⟩ := List.lookup_eq_some_iff.mp h
  simp

theorem DistinctKeys.get?_eq_some_iff {d : Document} (h : d.DistinctKeys) {key : String}
    {v : Value} : d.get? key = some v ↔ (key, v) ∈ d := by
  refine ⟨mem_of_get?, fun hm => ?_⟩
  induction d with
  | nil => cases hm
  | cons field rest ih =>
    obtain ⟨k, w⟩ := field
    obtain ⟨hk, hrest⟩ := List.nodup_cons.mp h
    rw [get?_cons]
    rcases List.mem_cons.mp hm with heq | hin
    · cases heq
      simp
    · have hne : key ≠ k := by
        rintro rfl
        exact hk (List.mem_map.mpr ⟨_, hin, rfl⟩)
      rw [if_neg hne]
      exact ih hrest hin

theorem DistinctKeys.get?_of_perm {d e : Document} (h : d.DistinctKeys) (moved : e.Perm d)
    (key : String) : e.get? key = d.get? key := by
  have he : e.DistinctKeys := (moved.map Prod.fst).nodup_iff.mpr h
  ext v
  rw [he.get?_eq_some_iff, h.get?_eq_some_iff, moved.mem_iff]

/-- Equal up to a relation on values, in whatever order the fields are. -/
def Alike (R : Value → Value → Prop) (xs ys : Document) : Prop :=
  ∀ key, Option.Rel R (xs.get? key) (ys.get? key)

variable {R : Value → Value → Prop} {xs ys zs : Document}

theorem Alike.mem_keys (h : Alike R xs ys) {key : String} : key ∈ xs.keys ↔ key ∈ ys.keys := by
  rw [← not_iff_not, ← get?_eq_none_iff, ← get?_eq_none_iff]
  have hk := h key
  cases hx : xs.get? key <;> cases hy : ys.get? key <;> simp_all

theorem Alike.length_eq (h : Alike R xs ys) (hx : xs.DistinctKeys) (hy : ys.DistinctKeys) :
    xs.length = ys.length := by
  have hp : xs.keys.Perm ys.keys := (List.perm_ext_iff_of_nodup hx hy).mpr fun _ => h.mem_keys
  simpa [keys] using hp.length_eq

theorem alike_of_subset (hx : xs.DistinctKeys) (hl : xs.length = ys.length)
    (h : ∀ field ∈ xs, ∃ w, ys.get? field.1 = some w ∧ R field.2 w) : Alike R xs ys := by
  intro key
  cases hk : xs.get? key with
  | some v =>
    obtain ⟨w, hw, hr⟩ := h _ (mem_of_get? hk)
    rw [hw]
    exact .some hr
  | none =>
    have sub : xs.keys ⊆ ys.keys := by
      intro k hm
      obtain ⟨field, hf, rfl⟩ := List.mem_map.mp hm
      obtain ⟨w, hw, -⟩ := h field hf
      by_contra hn
      rw [get?_eq_none_iff.mpr hn] at hw
      cases hw
    have hp := (List.subperm_of_subset hx sub).perm_of_length_le (by simp [keys, hl])
    rw [get?_eq_none_iff] at hk
    rw [get?_eq_none_iff.mpr fun hm => hk (hp.mem_iff.mpr hm)]
    exact .none

theorem Alike.counterpart (h : Alike R xs ys) (hx : xs.DistinctKeys) {key : String} {v : Value}
    (hv : (key, v) ∈ xs) : ∃ w, ys.get? key = some w ∧ R v w := by
  have hk := h key
  rw [hx.get?_eq_some_iff.mpr hv] at hk
  cases hw : ys.get? key with
  | none => simp [hw] at hk
  | some w => exact ⟨w, rfl, by simpa [hw] using hk⟩

theorem alike_iff (hx : xs.DistinctKeys) (hy : ys.DistinctKeys) : Alike R xs ys ↔
    xs.length = ys.length ∧ ∀ field ∈ xs, ∃ w, ys.get? field.1 = some w ∧ R field.2 w := by
  constructor
  · intro h
    exact ⟨h.length_eq hx hy, fun field hf => h.counterpart hx hf⟩
  · rintro ⟨hl, h⟩
    exact alike_of_subset hx hl h

theorem Alike.imp {S : Value → Value → Prop} (h : Alike R xs ys)
    (hRS : ∀ key v w, (key, v) ∈ xs → (key, w) ∈ ys → R v w → S v w) : Alike S xs ys := by
  intro key
  have hk := h key
  cases hx : xs.get? key <;> cases hy : ys.get? key <;> rw [hx, hy] at hk <;> cases hk
  · exact .none
  · exact .some (hRS _ _ _ (mem_of_get? hx) (mem_of_get? hy) ‹_›)

theorem Alike.flip (h : Alike R xs ys) : Alike (fun w v => R v w) ys xs := by
  intro key
  have hk := h key
  cases hx : xs.get? key <;> cases hy : ys.get? key <;> rw [hx, hy] at hk <;> cases hk
  · exact .none
  · exact .some ‹_›

theorem Alike.symm (h : Alike R xs ys)
    (hR : ∀ key v w, (key, v) ∈ xs → (key, w) ∈ ys → R v w → R w v) : Alike R ys xs :=
  h.flip.imp fun key w v hw hv => hR key v w hv hw

theorem Alike.forall_congr (h : Alike R xs ys) (hx : xs.DistinctKeys) (hy : ys.DistinctKeys)
    {P Q : String × Value → Prop}
    (hPQ : ∀ key v w, (key, v) ∈ xs → R v w → (P (key, v) ↔ Q (key, w))) :
    (∀ field ∈ xs, P field) ↔ ∀ field ∈ ys, Q field := by
  constructor
  · rintro hp ⟨key, w⟩ hw
    obtain ⟨v, hv, hr⟩ := h.flip.counterpart hy hw
    have hm := mem_of_get? hv
    exact (hPQ key v w hm hr).mp (hp _ hm)
  · rintro hq ⟨key, v⟩ hv
    obtain ⟨w, hw, hr⟩ := h.counterpart hx hv
    exact (hPQ key v w hv hr).mpr (hq _ (mem_of_get? hw))

theorem Alike.trans (h : Alike R xs ys) (k : Alike R ys zs)
    (hR : ∀ key v w u, (key, v) ∈ xs → (key, w) ∈ ys → (key, u) ∈ zs → R v w → R w u → R v u) :
    Alike R xs zs := by
  intro key
  have hk := h key
  have kk := k key
  cases hx : xs.get? key <;> cases hy : ys.get? key <;> cases hz : zs.get? key <;>
    rw [hx, hy] at hk <;> rw [hy, hz] at kk <;> cases hk <;> cases kk
  · exact .none
  · exact .some (hR _ _ _ _ (mem_of_get? hx) (mem_of_get? hy) (mem_of_get? hz) ‹_› ‹_›)

/-- What passes from the documents in its fields to a document holds of every document. -/
theorem nested_induction {motive : Document → Prop}
    (step : ∀ d : Document, (∀ key inner, (key, .document inner) ∈ d → motive inner) → motive d)
    (d : Document) : motive d :=
  step d fun key inner hm =>
    have := List.sizeOf_lt_of_mem hm
    nested_induction step inner
termination_by sizeOf d
decreasing_by
  simp at this
  omega

end Document

end Criteria
