import Criteria.Value.Text

/-!
# Failures of a match

A match fails when a query names an operator that nobody registered, or when an operator meets a
value of the wrong kind in the object or in its own definition.
-/

namespace Criteria

inductive Side where
  | object
  | definition
deriving DecidableEq, Repr

def Side.text : Side → String
  | .object => "object"
  | .definition => "definition"

inductive Failure where
  | unknownOperator (name : String)
  /-- `value` is the text of the value, for people. -/
  | typeMismatch (operator : String) (side : Side) (reason value : String)
deriving DecidableEq, Repr

namespace Failure

def ofValue (operator : String) (side : Side) (reason : String) (value : Option Value) : Failure :=
  .typeMismatch operator side reason (describe value)

def message : Failure → String
  | unknownOperator name => "Unknown operator: " ++ name
  | typeMismatch operator side reason value =>
    operator ++ ": " ++ side.text ++ ": " ++ reason ++ ": " ++ value

def operator : Failure → String
  | unknownOperator name => name
  | typeMismatch operator _ _ _ => operator

def side : Failure → Option Side
  | unknownOperator _ => none
  | typeMismatch _ side _ _ => some side

end Failure

end Criteria
