import Criteria.Number.Rounding
import Criteria.Value

/-!
# Order and two equalities

Integers of both widths and doubles are one ordered domain, compared by exact value. No integer
becomes a double for it. A NaN has no place in the order, and neither has a value of any other kind,
decimals included.

`storedEq` compares values as they are stored: kinds agree, and a NaN equals nothing, not even
itself. `deepEqual` compares by meaning: numbers by exact value whatever their width, and a NaN with
a NaN. It looks through arrays and documents but not into scopes, which it compares as stored.
Neither looks at the order of fields.
-/

namespace Criteria

/-- Order of an integer and a double. A double beyond the integers of 64 bits is settled by its
side. Any other one is cut off at the point; where the integer is the whole part, what is left of
the double decides. -/
def Binary64.compareInt? (n : Int64) (d : Binary64) : Option Ordering :=
  if d.isNaN then none
  else if d.atLeast intLimit then some .lt
  else if d.below intLimit.neg then some .gt
  else
    let whole := d.trunc
    match compare n.toInt whole.toInt64.toInt with
    | .eq => zero.compare? (d.sub whole)
    | order => some order

def Value.compare? (a b : Value) : Option Ordering :=
  match a.asInt?, b.asInt? with
  | some m, some n => some (Ord.compare m.toInt n.toInt)
  | some m, none => b.asDouble?.bind fun d => Binary64.compareInt? m d
  | none, some n => a.asDouble?.bind fun d => (Binary64.compareInt? n d).map Ordering.swap
  | none, none => a.asDouble?.bind fun x => b.asDouble?.bind fun y => x.compare? y

mutual

/-- Equality of values as stored. Doubles compare as numbers do. -/
def Value.storedEq : Value → Value → Bool
  | .null, .null => true
  | .boolean a, .boolean b => a == b
  | .int32 a, .int32 b => a == b
  | .int64 a, .int64 b => a == b
  | .double a, .double b => a.numericEq b
  | .string a, .string b => a == b
  | .array a, .array b => storedItemsEq a b
  | .document a, .document b => a.length == b.length && storedFieldsEq a b
  | .regex p o, .regex q r => p == q && o == r
  | .undefined, .undefined => true
  | .minKey, .minKey => true
  | .maxKey, .maxKey => true
  | .symbol a, .symbol b => a == b
  | .code a, .code b => a == b
  | .codeWithScope a s, .codeWithScope b t => a == b && s.length == t.length && storedFieldsEq s t
  | .timestamp t i, .timestamp u j => t == u && i == j
  | .binary s a, .binary t b => s == t && a == b
  | .objectId a, .objectId b => a == b
  | .dateTime a, .dateTime b => a == b
  | .decimal128 a, .decimal128 b => a == b
  | .dbPointer c a, .dbPointer d b => c == d && a == b
  | _, _ => false

def storedItemsEq : List Value → List Value → Bool
  | [], [] => true
  | a :: as, b :: bs => a.storedEq b && storedItemsEq as bs
  | _, _ => false

def storedFieldsEq : List (String × Value) → List (String × Value) → Bool
  | [], _ => true
  | (k, v) :: rest, fields =>
    (match fields.lookup k with
      | some w => v.storedEq w
      | none => false) && storedFieldsEq rest fields

end

mutual

/-- Equality by meaning. Where numbers compare, their order decides. -/
def Value.deepEqual (a b : Value) : Bool :=
  match a.compare? b with
  | some order => order == .eq
  | none =>
    match a, b with
    | .double x, .double y => x.isNaN && y.isNaN
    | .array xs, .array ys => deepItemsEqual xs ys
    | .document xs, .document ys => xs.length == ys.length && deepFieldsEqual xs ys
    | _, _ => a.storedEq b

def deepItemsEqual : List Value → List Value → Bool
  | [], [] => true
  | a :: as, b :: bs => a.deepEqual b && deepItemsEqual as bs
  | _, _ => false

def deepFieldsEqual : List (String × Value) → List (String × Value) → Bool
  | [], _ => true
  | (k, v) :: rest, fields =>
    (match fields.lookup k with
      | some w => v.deepEqual w
      | none => false) && deepFieldsEqual rest fields

end

/-- Whether a field, which may be missing, has an expected value. A missing field has only the value
`undefined`. -/
def fieldEqual (actual : Option Value) (expected : Value) : Bool :=
  match actual, expected with
  | none, .undefined => true
  | none, _ => false
  | some v, e => v.deepEqual e

end Criteria
