import Criteria.Operator.Builtin
import Criteria.Text.Quoted

/-!
# Registries

A registry is a finite map from names to operators, kept in the order of the names, so that equal
maps are equal registries. Names are ordered by code points. `get?_insert` and `get?_erase` say what
a registry answers after a change.
-/

namespace Criteria

structure Registry where
  entries : List (String × Operator)
  increasing : (entries.map Prod.fst).Pairwise (· < ·)

namespace Registry

/-- Puts an entry in its place, or in place of the entry of the same name. -/
def insertEntry (name : String) (op : Operator) :
    List (String × Operator) → List (String × Operator)
  | [] => [(name, op)]
  | (n, o) :: rest =>
    if name < n then (name, op) :: (n, o) :: rest
    else if name = n then (name, op) :: rest
    else (n, o) :: insertEntry name op rest

theorem mem_names_insertEntry {name n : String} {op : Operator} {entries : List (String × Operator)}
    (h : n ∈ (insertEntry name op entries).map Prod.fst) :
    n = name ∨ n ∈ entries.map Prod.fst := by
  induction entries with
  | nil => simpa [insertEntry] using h
  | cons e rest ih =>
    obtain ⟨m, o⟩ := e
    unfold insertEntry at h
    split at h
    · simpa using h
    · split at h
      · rename_i heq
        simp only [List.map_cons, List.mem_cons] at h ⊢
        rcases h with h | h
        · exact .inl h
        · exact .inr (.inr h)
      · simp only [List.map_cons, List.mem_cons] at h ⊢
        rcases h with h | h
        · exact .inr (.inl h)
        · rcases ih h with h | h
          · exact .inl h
          · exact .inr (.inr h)

theorem increasing_insertEntry {name : String} {op : Operator} {entries : List (String × Operator)}
    (h : (entries.map Prod.fst).Pairwise (· < ·)) :
    ((insertEntry name op entries).map Prod.fst).Pairwise (· < ·) := by
  induction entries with
  | nil => simp [insertEntry]
  | cons e rest ih =>
    obtain ⟨m, o⟩ := e
    simp only [List.map_cons, List.pairwise_cons] at h
    unfold insertEntry
    split
    · rename_i hlt
      simp only [List.map_cons, List.pairwise_cons, List.mem_cons]
      refine ⟨fun n hn => ?_, h⟩
      rcases hn with rfl | hn
      · exact hlt
      · exact String.lt_trans hlt (h.1 n hn)
    · split
      · rename_i heq
        subst heq
        simpa only [List.map_cons, List.pairwise_cons] using h
      · rename_i hlt hne
        simp only [List.map_cons, List.pairwise_cons]
        refine ⟨fun n hn => ?_, ih h.2⟩
        rcases mem_names_insertEntry hn with rfl | hn
        · exact Std.lt_of_le_of_ne (Std.not_lt.1 hlt) (Ne.symm hne)
        · exact h.1 n hn

def empty : Registry := ⟨[], .nil⟩

def get? (r : Registry) (name : String) : Option Operator := r.entries.lookup name

def insert (r : Registry) (name : String) (op : Operator) : Registry :=
  ⟨insertEntry name op r.entries, increasing_insertEntry r.increasing⟩

def erase (r : Registry) (name : String) : Registry where
  entries := r.entries.filter fun entry => entry.1 != name
  increasing := r.increasing.sublist (List.filter_sublist.map Prod.fst)

def contains (r : Registry) (name : String) : Bool := (r.get? name).isSome

def names (r : Registry) : List String := r.entries.map Prod.fst

def size (r : Registry) : Nat := r.entries.length

def isEmpty (r : Registry) : Bool := r.entries.isEmpty

/-- The built-in operators under their own names. -/
def builtin : Registry := Builtin.all.foldl (fun r b => r.insert b.name b.operator) empty

def text (r : Registry) : String :=
  "Registry \x7b operators: " ++ Quoted.encodeList r.names ++ " \x7d"

theorem lookup_cons_eq_ite (n m : String) (o : Operator) (rest : List (String × Operator)) :
    ((m, o) :: rest).lookup n = if n = m then some o else rest.lookup n := by
  by_cases h : n = m
  · simp [h]
  · simp [List.lookup_cons, h, beq_false_of_ne h]

theorem lookup_insertEntry (name n : String) (op : Operator) (entries : List (String × Operator)) :
    (insertEntry name op entries).lookup n =
      if n = name then some op else entries.lookup n := by
  induction entries with
  | nil => exact lookup_cons_eq_ite n name op []
  | cons e rest ih =>
    obtain ⟨m, o⟩ := e
    unfold insertEntry
    split
    · simp only [lookup_cons_eq_ite]
    · split
      · rename_i heq
        subst heq
        simp only [lookup_cons_eq_ite]
        split <;> rfl
      · rename_i hne
        simp only [lookup_cons_eq_ite, ih]
        grind

@[simp] theorem get?_empty (name : String) : empty.get? name = none := rfl

theorem get?_insert (r : Registry) (name n : String) (op : Operator) :
    (r.insert name op).get? n = if n = name then some op else r.get? n :=
  lookup_insertEntry name n op r.entries

theorem get?_erase (r : Registry) (name n : String) :
    (r.erase name).get? n = if n = name then none else r.get? n := by
  simp only [get?, erase]
  induction r.entries with
  | nil => simp
  | cons e rest ih =>
    obtain ⟨m, o⟩ := e
    simp only [List.filter_cons]
    split <;> grind [lookup_cons_eq_ite]

end Registry

end Criteria
