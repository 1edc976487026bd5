import Criteria.Unicode.CharSet

/-!
# Expressions of the pattern language

An expression is what a pattern means once its flags have been worked into it: a class knows its
characters whatever their case, and an anchor knows whether lines count.
-/

namespace Criteria.Pattern

structure Flags where
  caseInsensitive : Bool := false
  multiLine : Bool := false
  dotAll : Bool := false
  verbose : Bool := false
  unicode : Bool := true
  crlf : Bool := false
  lazy : Bool := false
deriving DecidableEq, Repr

/-- Conditions on a place between characters. Those about words come in a form for all scripts and
one for ASCII. -/
inductive Assertion where
  | textStart
  | textEnd
  | lineStart (crlf : Bool)
  | lineEnd (crlf : Bool)
  | wordBoundary (ascii : Bool)
  | notWordBoundary (ascii : Bool)
  | wordStart (ascii : Bool)
  | wordEnd (ascii : Bool)
  | wordStartHalf (ascii : Bool)
  | wordEndHalf (ascii : Bool)
deriving DecidableEq, Repr

inductive Expr where
  | empty
  | directive
  /-- One character of a set. `nesting` counts the brackets and set operations inside each other. -/
  | chars (set : CharSet) (nesting : Nat)
  | assertion (condition : Assertion)
  | group (captures : Bool) (body : Expr)
  /-- A lazy repetition would rather end early; it ends at the same places. -/
  | repeated (body : Expr) (min : Nat) (max : Option Nat) (lazy : Bool)
  | concat (parts : List Expr)
  | alternate (branches : List Expr)
deriving Repr, Inhabited

mutual

def Expr.depth : Expr → Nat
  | .empty | .directive | .assertion _ => 0
  | .chars _ nesting => nesting
  | .group _ body => body.depth + 1
  | .repeated body _ _ _ => body.depth + 1
  | .concat parts => depthOfList parts + 1
  | .alternate branches => depthOfList branches + 1

def depthOfList : List Expr → Nat
  | [] => 0
  | e :: rest => max e.depth (depthOfList rest)

end

def maxDepth : Nat := 250

def Expr.ofParts : List Expr → Expr
  | [] => .empty
  | [e] => e
  | parts => .concat parts

def Expr.isRepeatable : Expr → Bool
  | .empty | .directive => false
  | _ => true

end Criteria.Pattern
