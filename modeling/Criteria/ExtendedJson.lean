import Criteria.Bytes
import Criteria.Calendar
import Criteria.Evaluation
import Criteria.Json.Reader

/-!
# Values in extended JSON

JSON knows fewer kinds of values than documents hold. The others are wrapped: an object with a key
such as `$oid` stands for one value. An object with such a key that is not well formed is refused,
not taken for a document. The parts of a wrapper's body may be given by name or, in order, as an
array. A query and an object may both come as such texts.
-/

namespace Criteria

namespace ExtendedJson

inductive Wrapper where
  | objectId
  | symbol
  | regex
  | int32
  | int64
  | double
  | decimal128
  | binary
  | uuid
  | code
  | timestamp
  | dateTime
  | minKey
  | maxKey
  | dbPointer
  | undefined
deriving DecidableEq, Repr

namespace Wrapper

def all : List Wrapper :=
  [objectId, symbol, regex, int32, int64, double, decimal128, binary, uuid, code, timestamp,
    dateTime, minKey, maxKey, dbPointer, undefined]

def key : Wrapper → String
  | objectId => "$oid"
  | symbol => "$symbol"
  | regex => "$regularExpression"
  | int32 => "$numberInt"
  | int64 => "$numberLong"
  | double => "$numberDouble"
  | decimal128 => "$numberDecimal"
  | binary => "$binary"
  | uuid => "$uuid"
  | code => "$code"
  | timestamp => "$timestamp"
  | dateTime => "$date"
  | minKey => "$minKey"
  | maxKey => "$maxKey"
  | dbPointer => "$dbPointer"
  | undefined => "$undefined"

def find? (fields : List (String × Json)) : Option Wrapper :=
  all.find? fun w => (fields.lookup w.key).isSome

end Wrapper

def parts? (names : List String) : Json → Option (List Json)
  | .object fields =>
    if fields.length = names.length then names.mapM fun name => fields.lookup name else none
  | .array items => if items.length = names.length then some items else none
  | _ => none

def naturalBelow? (bound : Nat) : Json → Option Nat
  | .integer n => if 0 ≤ n ∧ n < bound then some n.toNat else none
  | _ => none

def readObjectId? (text : String) : Option ObjectId :=
  let digits := text.toList
  if digits.length = 24 then (readHex? digits).map fun n => ⟨BitVec.ofNat 96 n⟩ else none

/-- Reads a double. Names of infinities and of the NaN go in any letter case, and a sign may come
first. -/
def readDouble? (text : String) : Option Binary64 :=
  let (negative, cs) :=
    match text.toList with
    | '-' :: cs => (true, cs)
    | '+' :: cs => (false, cs)
    | cs => (false, cs)
  match String.ofList (cs.map Char.toLower) with
  | "inf" | "infinity" => some (Binary64.infinity.withSign negative)
  | "nan" => some (Binary64.nan.withSign negative)
  | _ => do
    let isDigit := fun c => (decimalDigit? c).isSome
    let whole := cs.takeWhile isDigit
    let (places, rest) :=
      match cs.drop whole.length with
      | '.' :: rest => (rest.takeWhile isDigit, rest.dropWhile isDigit)
      | rest => ([], rest)
    let exponent ← Json.readExponent? rest
    let digits := whole ++ places
    let number ← readDigits? digits
    return .ofDecimal negative number (Nat.toDigits 10 number).length
      (exponent.getD 0 - places.length)

def dropDashes? (cs : List Char) : Option (List Char) :=
  let dashes := [8, 13, 18, 23]
  if cs.length = 36 ∧ dashes.all fun i => cs[i]? = some '-' then
    some ((cs.zipIdx.filter fun entry => !dashes.contains entry.2).map Prod.fst)
  else none

/-- Reads a universally unique identifier: digits, or digits in groups, which may stand in braces or
behind a scheme. -/
def readUuid? (text : String) : Option (List UInt8) :=
  let cs := text.toList
  let digits? :=
    if cs.length = 32 then some cs
    else if cs.length = 38 ∧ cs.head? = some '\x7b' ∧ cs.getLast? = some '\x7d' then
      dropDashes? (cs.drop 1).dropLast
    else if cs.length = 45 ∧ (cs.take 9).map Char.toLower = "urn:uuid:".toList then
      dropDashes? (cs.drop 9)
    else dropDashes? cs
  digits?.bind Hex.decode?

def readInt? (bits : Nat) (body : Json) : Option Int :=
  let bound := Int.pow 2 (bits - 1)
  body.asString?.bind fun s => readBetween? (-bound) (bound - 1) s.toList

def readDateTime? (body : Json) : Option Int :=
  match body with
  | .integer n => if -Int.pow 2 63 ≤ n ∧ n < Int.pow 2 63 then some n else none
  | .string s => Calendar.readInstant? s.toList
  | body =>
    match parts? [Wrapper.int64.key] body with
    | some [number] => readInt? 64 number
    | _ => none

def Wrapper.read? (w : Wrapper) (body : Json) : Option Value :=
  match w with
  | objectId => body.asString?.bind fun s => (readObjectId? s).map .objectId
  | symbol => body.asString?.map .symbol
  | regex => do
    let [pattern, options] ← parts? ["pattern", "options"] body | none
    let pattern ← pattern.asString?
    let options ← options.asString?
    if pattern.contains '\x00' || options.contains '\x00' then none
    else return .regex pattern (String.ofList (options.toList.mergeSort fun a b => a ≤ b))
  | int32 => (readInt? 32 body).map fun n => .int32 (Int32.ofInt n)
  | int64 => (readInt? 64 body).map fun n => .int64 (Int64.ofInt n)
  | double => body.asString?.bind fun s => (readDouble? s).map .double
  | decimal128 => body.asString?.bind fun s => (Decimal128.ofText? s).map .decimal128
  | binary => do
    let [bytes, subtype] ← parts? ["base64", "subType"] body | none
    let bytes ← Base64.decode? (← bytes.asString?).toList
    let [subtype] ← Hex.decode? (← subtype.asString?).toList | none
    return .binary subtype bytes
  | uuid => body.asString?.bind fun s => (readUuid? s).map (.binary 4)
  | code => body.asString?.map .code
  | timestamp => do
    let [time, increment] ← parts? ["t", "i"] body | none
    let time ← naturalBelow? (Nat.pow 2 32) time
    let increment ← naturalBelow? (Nat.pow 2 32) increment
    return .timestamp (UInt32.ofNat time) (UInt32.ofNat increment)
  | dateTime => (readDateTime? body).map fun n => .dateTime (Int64.ofInt n)
  | minKey => (naturalBelow? 256 body).bind fun n => if n = 1 then some .minKey else none
  | maxKey => (naturalBelow? 256 body).bind fun n => if n = 1 then some .maxKey else none
  | dbPointer => do
    let [collection, id] ← parts? ["$ref", "$id"] body | none
    let [id] ← parts? [Wrapper.objectId.key] id | none
    return .dbPointer (← collection.asString?) (← readObjectId? (← id.asString?))
  | undefined =>
    match body with
    | .boolean true => some .undefined
    | _ => none

/-- An integer takes the smallest kind that holds it; a large one loses digits. -/
def ofInteger (n : Int) : Value :=
  if -Int.pow 2 31 ≤ n ∧ n < Int.pow 2 31 then .int32 (Int32.ofInt n)
  else if -Int.pow 2 63 ≤ n ∧ n < Int.pow 2 63 then .int64 (Int64.ofInt n)
  else .double ((Binary64.ofNat n.natAbs).withSign (n < 0))

mutual

def toValue? : Json → Option Value
  | .null => some .null
  | .boolean b => some (.boolean b)
  | .integer n => some (ofInteger n)
  | .real d => some (.double d)
  | .string s => some (.string s)
  | .array items => (itemsToValues? items).map .array
  | .object fields =>
    match Wrapper.find? fields with
    | none => (fieldsToValues? fields).map .document
    | some .code => codeToValue? fields
    | some w =>
      match fields with
      | [(_, body)] => w.read? body
      | _ => none

def itemsToValues? : List Json → Option (List Value)
  | [] => some []
  | j :: rest => do return (← toValue? j) :: (← itemsToValues? rest)

def fieldsToValues? : List (String × Json) → Option (List (String × Value))
  | [] => some []
  | (name, j) :: rest => do return (name, ← toValue? j) :: (← fieldsToValues? rest)

/-- The value of a code wrapper, which may have a scope. The scope itself is never a wrapper. -/
def codeToValue? : List (String × Json) → Option Value
  | [(_, body)] => Wrapper.code.read? body
  | [(_, .string source), ("$scope", .object fields)] =>
    (fieldsToValues? fields).map (.codeWithScope source)
  | [(_, .string source), ("$scope", .null)] => some (.code source)
  | _ => none

end

inductive ReadFailure where
  | notJson
  | notObject (kind : String)
  | malformed
  | notDocument (value : Value)

def ReadFailure.message? : ReadFailure → Option String
  | notJson | malformed => none
  | notObject kind => some ("expected a JSON object, found " ++ kind)
  | notDocument value => some ("BSON: expected a document, got " ++ value.text)

def toDocument (j : Json) : Except ReadFailure Document :=
  match j with
  | .object _ =>
    match toValue? j with
    | some (.document fields) => .ok fields
    | some value => .error (.notDocument value)
    | none => .error .malformed
  | j => .error (.notObject j.kind)

def nestingLimit : Nat := 128

def readDocument (text : String) : Except ReadFailure Document :=
  match Json.read? nestingLimit text with
  | some j => toDocument j
  | none => .error .notJson

end ExtendedJson

/-- Matches the text of an object against the text of a query. A text that cannot be read comes with
its side; of two bad texts the query is told, which is read first. -/
def Registry.runTexts (r : Registry) (limit : Nat) (query object : String) :
    Except (Side × ExtendedJson.ReadFailure) (Run Bool) :=
  match ExtendedJson.readDocument query with
  | .error failure => .error (.definition, failure)
  | .ok query =>
    match ExtendedJson.readDocument object with
    | .error failure => .error (.object, failure)
    | .ok object => .ok (r.run limit query object)

end Criteria
