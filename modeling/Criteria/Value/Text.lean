import Criteria.Bytes
import Criteria.Calendar
import Criteria.Number.Shortest
import Criteria.Value

/-!
# The text of values in messages

Nothing is escaped: the text is for people and cannot be read back. A string is quoted inside other
values and bare on its own.
-/

namespace Criteria

def ObjectId.text (id : ObjectId) : String := String.ofList (padDigits 16 24 id.word.toNat)

mutual

def Value.text : Value → String
  | .null => "null"
  | .boolean value => if value then "true" else "false"
  | .int32 n => toString n.toInt
  | .int64 n => toString n.toInt
  | .double d => d.text
  | .string s => "\"" ++ s ++ "\""
  | .array [] => "[]"
  | .array (v :: rest) => "[" ++ v.text ++ itemsText rest ++ "]"
  | .document [] => "\x7b\x7d"
  | .document ((k, v) :: rest) => "\x7b \"" ++ k ++ "\": " ++ v.text ++ fieldsText rest ++ " \x7d"
  | .regex pattern options => "/" ++ pattern ++ "/" ++ options
  | .undefined => "undefined"
  | .minKey => "MinKey"
  | .maxKey => "MaxKey"
  | .symbol name => "Symbol(\"" ++ name ++ "\")"
  | .code source => source
  | .codeWithScope source _ => source
  | .timestamp time increment =>
    "Timestamp(" ++ toString time.toNat ++ ", " ++ toString increment.toNat ++ ")"
  | .binary subtype bytes =>
    "Binary(0x" ++ String.ofList (Nat.toDigits 16 subtype.toNat) ++ ", " ++ Base64.encode bytes ++
      ")"
  | .objectId id => "ObjectId(\"" ++ id.text ++ "\")"
  | .dateTime millis => "DateTime(\"" ++ Calendar.instantText millis.toInt ++ "\")"
  | .decimal128 value => value.text
  | .dbPointer collection id => "DbPointer(" ++ collection ++ ", " ++ id.text ++ ")"

def itemsText : List Value → String
  | [] => ""
  | v :: rest => ", " ++ v.text ++ itemsText rest

def fieldsText : List (String × Value) → String
  | [] => ""
  | (k, v) :: rest => ", \"" ++ k ++ "\": " ++ v.text ++ fieldsText rest

end

/-- The text of the value of a field that may be missing. -/
def describe : Option Value → String
  | none => "undefined"
  | some (.string s) => s
  | some v => v.text

end Criteria
