import Criteria.Unicode.Property

/-!
# Quoted texts

A quoted text stands between double quotes. Quotes and backslashes inside it, characters that cannot
be seen on their own, and unassigned ones are escaped.
-/

namespace Criteria.Quoted

def soundMarks : CharSet := CharSet.ofRange 0xff9e 0xff9f

open Unicode in
/-- Characters that show as themselves. Of the spaces only the plain one does. Marks that join the
character before them do not, nor do characters that a display may leave out. -/
def visible : CharSet :=
  let unseen := Category.together ["cc", "cf", "co", "zl", "zp", "zs"]
  let shown := (Category.assigned.diff unseen).union (CharSet.single ' '.toNat)
  let joining := (Property.set "graphemeextend").diff soundMarks
  ((shown.diff joining).diff (Property.set "defaultignorablecodepoint")).union Recent.visible

def escape (c : Char) : List Char :=
  match c with
  | '\x00' => ['\\', '0']
  | '\t' => ['\\', 't']
  | '\r' => ['\\', 'r']
  | '\n' => ['\\', 'n']
  | '"' => ['\\', '"']
  | '\\' => ['\\', '\\']
  | c =>
    if visible.containsChar c then [c]
    else ['\\', 'u', '\x7b'] ++ Nat.toDigits 16 c.toNat ++ ['\x7d']

def encode (s : String) : String := "\"" ++ String.ofList (s.toList.flatMap escape) ++ "\""

def encodeList (texts : List String) : String := "[" ++ ", ".intercalate (texts.map encode) ++ "]"

end Criteria.Quoted
