import Criteria.Number.Binary64
import Criteria.Number.Decimal128

/-!
# Stored values and documents

A value is a scalar of one of many kinds, an array, or a document: an ordered list of fields.
Queries are documents too. Documents built by `Document.insert` have each key once.
-/

namespace Criteria

structure ObjectId where
  word : BitVec 96
deriving DecidableEq, Repr

inductive Value where
  | null
  | boolean (value : Bool)
  | int32 (value : Int32)
  | int64 (value : Int64)
  | double (value : Binary64)
  | string (value : String)
  | array (items : List Value)
  | document (fields : List (String × Value))
  | regex (pattern options : String)
  | undefined
  | minKey
  | maxKey
  | symbol (name : String)
  | code (source : String)
  | codeWithScope (source : String) (scope : List (String × Value))
  | timestamp (time increment : UInt32)
  | binary (subtype : UInt8) (bytes : List UInt8)
  | objectId (id : ObjectId)
  | dateTime (millis : Int64)
  | decimal128 (value : Decimal128)
  | dbPointer (collection : String) (id : ObjectId)
deriving Repr, Inhabited

abbrev Document := List (String × Value)

namespace Document

def get? (d : Document) (key : String) : Option Value := d.lookup key

/-- Sets a field: in its place if the key is there, else at the end. -/
def insert : Document → String → Value → Document
  | [], key, value => [(key, value)]
  | (k, v) :: rest, key, value =>
    if k = key then (k, value) :: rest else (k, v) :: insert rest key value

/-- The document of a list of fields; a repeated key keeps its first place and its last value. -/
def ofFields (fields : List (String × Value)) : Document :=
  fields.foldl (fun d field => d.insert field.1 field.2) []

def keys (d : Document) : List String := d.map Prod.fst

def DistinctKeys (d : Document) : Prop := d.keys.Nodup

theorem get?_cons (d : Document) (k key : String) (v : Value) :
    get? ((k, v) :: d) key = if key = k then some v else d.get? key := by
  by_cases h : key = k
  · simp [get?, h]
  · simp [get?, List.lookup_cons, h, beq_false_of_ne h]

theorem get?_insert (d : Document) (k key : String) (v : Value) :
    (d.insert k v).get? key = if key = k then some v else d.get? key := by
  induction d with
  | nil => simp [insert, get?_cons]
  | cons field rest ih =>
    obtain ⟨k', v'⟩ := field
    by_cases h : k' = k
    · subst h
      simp only [insert, if_true, get?_cons]
      split <;> rfl
    · simp only [insert, if_neg h, get?_cons, ih]
      grind

theorem mem_keys_insert {d : Document} {k key : String} {v : Value} :
    key ∈ (d.insert k v).keys ↔ key = k ∨ key ∈ d.keys := by
  induction d with
  | nil => simp [insert, keys]
  | cons field rest ih =>
    obtain ⟨k', v'⟩ := field
    by_cases h : k' = k
    · simp [insert, keys, h]
    · simp only [insert, if_neg h, keys, List.map_cons, List.mem_cons] at ih ⊢
      rw [ih]
      exact or_left_comm

theorem DistinctKeys.insert {d : Document} (h : d.DistinctKeys) (k : String) (v : Value) :
    (d.insert k v).DistinctKeys := by
  induction d with
  | nil => simp [Document.insert, DistinctKeys, keys]
  | cons field rest ih =>
    obtain ⟨k', v'⟩ := field
    obtain ⟨hk, hrest⟩ := List.nodup_cons.1 h
    by_cases heq : k' = k
    · simpa [Document.insert, DistinctKeys, keys, heq] using h
    · simp only [Document.insert, if_neg heq]
      refine List.nodup_cons.2 ⟨fun hmem => ?_, ih hrest⟩
      rcases mem_keys_insert.1 hmem with hmem | hmem
      · exact heq hmem
      · exact hk hmem

/-- Documents made from any fields have each key once. -/
theorem distinctKeys_ofFields (fields : List (String × Value)) :
    (ofFields fields).DistinctKeys := by
  suffices ∀ d : Document, d.DistinctKeys →
      (fields.foldl (fun d field => d.insert field.1 field.2) d).DistinctKeys from
    this [] List.nodup_nil
  induction fields with
  | nil => exact fun _ h => h
  | cons field rest ih => exact fun d h => ih _ (h.insert field.1 field.2)

end Document

namespace Value

def isNumber : Value → Bool
  | int32 _ | int64 _ | double _ => true
  | _ => false

def asInt? : Value → Option Int64
  | int32 n => some n.toInt64
  | int64 n => some n
  | _ => none

def asDouble? : Value → Option Binary64
  | double d => some d
  | _ => none

end Value

mutual

/-- Every document inside the value has each key once, scopes included. -/
def Value.WellFormed : Value → Prop
  | .array items => WellFormedItems items
  | .document fields => Document.DistinctKeys fields ∧ WellFormedFields fields
  | .codeWithScope _ scope => Document.DistinctKeys scope ∧ WellFormedFields scope
  | _ => True

def WellFormedItems : List Value → Prop
  | [] => True
  | v :: rest => v.WellFormed ∧ WellFormedItems rest

def WellFormedFields : List (String × Value) → Prop
  | [] => True
  | (_, v) :: rest => v.WellFormed ∧ WellFormedFields rest

end

end Criteria
