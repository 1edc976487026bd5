import Criteria.Pattern.Footprint
import Criteria.Pattern.Matching
import Criteria.Pattern.Parser

/-!
# Patterns

A pattern is text in the pattern language with option letters. Building one may fail; a pattern that
was built can be searched for in any text.

Patterns that were built are kept for calls to come, up to a number of them; the one that was used
longest ago gives way. Calls run side by side: looking a pattern up and keeping it afterwards are
two moves, with the moves of other calls between them. `Calls.run` carries out any such order of
moves.
-/

namespace Criteria

structure Pattern where
  expr : Pattern.Expr
deriving Repr

namespace Pattern

/-- The flags of option letters. Order and repetition do not matter, and unknown letters have no
meaning; neither has `u`, as scripts beyond ASCII are on from the start. -/
def Flags.ofOptions (options : String) : Flags :=
  { caseInsensitive := options.toList.contains 'i'
    multiLine := options.toList.contains 'm'
    dotAll := options.toList.contains 's'
    verbose := options.toList.contains 'x' }

def build? (pattern : String) (flags : Flags) : Option Pattern :=
  ((read? flags pattern).filter Expr.fits).map Pattern.mk

def compile? (pattern options : String) : Option Pattern := build? pattern (Flags.ofOptions options)

def isMatch (p : Pattern) (text : String) : Bool := p.expr.matchesIn text

abbrev Key := String × String

namespace Key

def build? (key : Key) : Option Pattern := compile? key.1 key.2

end Key

structure Cache where
  entries : List (Key × Pattern) := []
deriving Repr

namespace Cache

def capacity : Nat := 256

def insert (c : Cache) (key : Key) (p : Pattern) : Cache :=
  ⟨((key, p) :: c.entries.filter fun entry => entry.1 != key).take capacity⟩

def lookup (c : Cache) (key : Key) : Option Pattern × Cache :=
  match c.entries.lookup key with
  | some p => (some p, c.insert key p)
  | none => (none, c)

end Cache

/-- How far a call for a pattern has come. -/
inductive Call where
  | asking (key : Key)
  | building (key : Key)
  | answered (key : Key) (answer : Option Pattern)
deriving Repr

namespace Call

/-- The next move of a call. A pattern that cannot be built is not kept. -/
def step (call : Call) (c : Cache) : Call × Cache :=
  match call with
  | asking key =>
    match c.lookup key with
    | (some p, c) => (answered key (some p), c)
    | (none, c) => (building key, c)
  | building key =>
    match key.build? with
    | some p => (answered key (some p), c.insert key p)
    | none => (answered key none, c)
  | answered key answer => (answered key answer, c)

end Call

structure Calls where
  cache : Cache := {}
  calls : List Call
deriving Repr

namespace Calls

def step (s : Calls) (index : Nat) : Calls :=
  match s.calls[index]? with
  | some call =>
    let moved := call.step s.cache
    ⟨moved.2, s.calls.set index moved.1⟩
  | none => s

def run (s : Calls) (order : List Nat) : Calls := order.foldl step s

def ofKeys (keys : List Key) : Calls where
  calls := keys.map .asking

end Calls

end Pattern

end Criteria
