import Criteria.Unicode.Age
import Criteria.Unicode.Property
import Criteria.Unicode.Script
import Criteria.Unicode.Segmentation

/-!
# Classes of characters by name

Names are compared loosely: case, blanks, hyphens, underscores and a leading `is` do not matter.
-/

namespace Criteria.Unicode

def hasIsPrefix : List Char → Bool
  | a :: b :: _ => (a == 'i' || a == 'I') && (b == 's' || b == 'S')
  | _ => false

/-- A name without what does not matter. What is left of `isc` after its `is` would be the name of a
category, so that name stays whole. -/
def looseName (name : List Char) : String :=
  let strip := hasIsPrefix name
  let kept := (if strip then name.drop 2 else name).filterMap fun c =>
    if c == ' ' || c == '_' || c == '-' || 127 < c.toNat then none else some c.toLower
  if strip && kept == ['c'] then "isc" else String.ofList kept

/-- A class by one name: a property, else a category, else a script. Three short names are those of
categories although properties have them too. -/
def classNamed? (name : List Char) : Option CharSet :=
  let key := looseName name
  let property := if key = "cf" || key = "sc" || key = "lc" then none else Property.set? key
  property <|> Category.set? key <|> Script.set? key

def classWith? (property value : List Char) : Option CharSet :=
  let key := looseName value
  match looseName property with
  | "gc" | "generalcategory" => Category.set? key
  | "sc" | "script" => Script.set? key
  | "scx" | "scriptextensions" => Script.extendedSet? key
  | "age" => Age.set? key
  | "gcb" | "graphemeclusterbreak" => Segmentation.set? Segmentation.graphemes key
  | "wb" | "wordbreak" => Segmentation.set? Segmentation.words key
  | "sb" | "sentencebreak" => Segmentation.set? Segmentation.sentences key
  | _ => none

end Criteria.Unicode
