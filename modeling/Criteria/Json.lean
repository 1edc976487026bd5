import Criteria.Number.Binary64

/-!
# JSON values

Numbers are integers of 64 bits, with or without a sign, or doubles. The fields of an object are in
the order of their names, and a name occurs once.
-/

namespace Criteria

inductive Json where
  | null
  | boolean (value : Bool)
  | integer (value : Int)
  | real (value : Binary64)
  | string (value : String)
  | array (items : List Json)
  | object (fields : List (String × Json))
deriving Repr, Inhabited

namespace Json

def kind : Json → String
  | null => "null"
  | boolean _ => "boolean"
  | integer _ | real _ => "number"
  | string _ => "string"
  | array _ => "array"
  | object _ => "object"

/-- Puts a field in its place. The last of several fields of one name stays. -/
def insertField (name : String) (value : Json) : List (String × Json) → List (String × Json)
  | [] => [(name, value)]
  | (n, v) :: rest =>
    if name < n then (name, value) :: (n, v) :: rest
    else if name = n then (name, value) :: rest
    else (n, v) :: insertField name value rest

def asString? : Json → Option String
  | string s => some s
  | _ => none

def field? (name : String) : Json → Option Json
  | object fields => fields.lookup name
  | _ => none

end Json

end Criteria
