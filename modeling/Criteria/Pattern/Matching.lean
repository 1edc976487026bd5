import Criteria.Pattern.Syntax
import Criteria.Unicode.Property
import Std.Data.TreeSet

/-!
# Matching

An expression takes the places where a match may start to the places where it may end. Places count
the characters before them. Whole sets of places move together, so no text is looked at twice for
the same reason, and a repetition ends as soon as it reaches no new place.
-/

namespace Criteria.Pattern

abbrev Places := List Nat

namespace Places

def union (s t : Places) : Places :=
  if s.isEmpty then t else if t.isEmpty then s else (s.merge t).eraseReps

end Places

def discover (known : Std.TreeSet Nat) (s : Places) : Places × Std.TreeSet Nat :=
  let r := s.foldl (fun (found, known) p =>
    if known.contains p then (found, known) else (p :: found, known.insert p)) ([], known)
  (r.1.reverse, r.2)

def isWord (ascii : Bool) (c : Char) : Bool :=
  if ascii then c.isAlphanum || c == '_' else Unicode.Property.word.containsChar c

def Assertion.holds (before after : Option Char) : Assertion → Bool
  | .textStart => before.isNone
  | .textEnd => after.isNone
  | .lineStart false => before.isNone || before == some '\n'
  | .lineEnd false => after.isNone || after == some '\n'
  | .lineStart true =>
    before.isNone || before == some '\n' || (before == some '\r' && after != some '\n')
  | .lineEnd true =>
    after.isNone || after == some '\r' || (after == some '\n' && before != some '\r')
  | .wordBoundary ascii => before.any (isWord ascii) != after.any (isWord ascii)
  | .notWordBoundary ascii => before.any (isWord ascii) == after.any (isWord ascii)
  | .wordStart ascii => !before.any (isWord ascii) && after.any (isWord ascii)
  | .wordEnd ascii => before.any (isWord ascii) && !after.any (isWord ascii)
  | .wordStartHalf ascii => !before.any (isWord ascii)
  | .wordEndHalf ascii => !after.any (isWord ascii)

def charBefore (text : Array Char) (p : Nat) : Option Char :=
  if p = 0 then none else text[p - 1]?

def iterate (step : Places → Places) : Nat → Places → Places
  | 0, s => s
  | n + 1, s =>
    let next := step s
    if next == s then s else iterate step n next

/-- The known places and those reached in at most `n` steps. Each step starts from the places that
the step before discovered. -/
def spread (step : Places → Places) : Nat → Std.TreeSet Nat → Places → Std.TreeSet Nat
  | 0, known, _ => known
  | n + 1, known, frontier =>
    let (new, known) := discover known (step frontier)
    if new.isEmpty then known else spread step n known new

def reach (step : Places → Places) (n : Nat) (start : Places) : Places :=
  (spread step n (Std.TreeSet.ofList start) start).toList

mutual

/-- The places where a match ends that starts at one of the given places. -/
def Expr.ends (text : Array Char) : Expr → Places → Places
  | .empty, s => s
  | .directive, s => s
  | .chars set _, s =>
    s.filterMap fun p =>
      match text[p]? with
      | some c => if set.containsChar c then some (p + 1) else none
      | none => none
  | .assertion a, s => s.filter fun p => a.holds (charBefore text p) text[p]?
  | .group _ body, s => body.ends text s
  | .repeated body min max _, s =>
    let start := iterate (fun t => body.ends text t) min s
    let extra := (max.map (· - min)).getD (text.size + 1)
    reach (fun t => body.ends text t) extra start
  | .concat parts, s => endsInTurn text parts s
  | .alternate branches, s => endsOfAny text branches s

def endsInTurn (text : Array Char) : List Expr → Places → Places
  | [], s => s
  | e :: rest, s => endsInTurn text rest (e.ends text s)

def endsOfAny (text : Array Char) : List Expr → Places → Places
  | [], _ => []
  | e :: rest, s => (e.ends text s).union (endsOfAny text rest s)

end

def Expr.matchesIn (e : Expr) (text : String) : Bool :=
  let chars := text.toList.toArray
  !(e.ends chars (List.range (chars.size + 1))).isEmpty

end Criteria.Pattern
