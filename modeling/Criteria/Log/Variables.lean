import Criteria.Unicode.Property

/-!
# References to variables in paths

A path may refer to a variable of the environment as `$ENV{name}`. The reference stands for the
value; a reference to a variable that is not set stands for itself.
-/

namespace Criteria.Log

def referenceStart : String := "$ENV\x7b"

def isVariableStart (c : Char) : Bool := c == '_' || Unicode.Recent.alphanumeric.containsChar c

def isVariablePart (c : Char) : Bool := isVariableStart c || c == '.'

def variableAt? (cs : List Char) : Option String :=
  let name := cs.takeWhile isVariablePart
  match name, cs.drop name.length with
  | first :: _, '\x7d' :: _ => if isVariableStart first then some (String.ofList name) else none
  | _, _ => none

def variablesOf : List Char → List String
  | [] => []
  | c :: rest =>
    let name :=
      if referenceStart.toList.isPrefixOf (c :: rest) then
        variableAt? ((c :: rest).drop referenceStart.length)
      else none
    name.toList ++ variablesOf rest

/-- Puts a value in place of every occurrence of a text from left to right. The first characters may
be part of an occurrence that has been replaced. -/
def replaceFrom (old value : List Char) : Nat → List Char → List Char
  | _, [] => []
  | passed + 1, _ :: rest => replaceFrom old value passed rest
  | 0, c :: rest =>
    if old.isPrefixOf (c :: rest) then value ++ replaceFrom old value (old.length - 1) rest
    else c :: replaceFrom old value 0 rest

def substitute (path name value : String) : String :=
  .ofList (replaceFrom (referenceStart ++ name ++ "\x7d").toList value.toList 0 path.toList)

/-- Replaces the references of a path one after the other. A value may bring in a reference to a
variable whose turn is still to come. -/
def expand (environment : List (String × String)) (path : String) : String :=
  (variablesOf path.toList).foldl
    (fun expanded name => ((environment.lookup name).map (substitute expanded name)).getD expanded)
    path

end Criteria.Log
