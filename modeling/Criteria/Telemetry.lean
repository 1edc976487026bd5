import Criteria.Failure
import Criteria.Number.Numeral

/-!
# Counters of matches

Six counters of 64 bits, which wrap. A match raises some of them, one after the other; a reader who
takes them one by one may see a match half counted. `Counting.run` carries out any order of such
moves.
-/

namespace Criteria

inductive Counter where
  | total
  | positive
  | slow
  | clauses
  | unknownOperator
  | typeMismatch
deriving DecidableEq, Repr

namespace Counter

/-- The counters in the order in which they are shown and read. -/
def all : List Counter := [total, positive, slow, clauses, unknownOperator, typeMismatch]

def name : Counter → String
  | total => "matches_total"
  | positive => "matched_true_total"
  | slow => "matches_slow_total"
  | clauses => "clauses_total"
  | unknownOperator => "unknown_operator_total"
  | typeMismatch => "type_mismatch_total"

end Counter

structure Counters where
  total : UInt64 := 0
  positive : UInt64 := 0
  slow : UInt64 := 0
  clauses : UInt64 := 0
  unknownOperator : UInt64 := 0
  typeMismatch : UInt64 := 0
deriving DecidableEq, Repr

namespace Counters

def get (s : Counters) : Counter → UInt64
  | .total => s.total
  | .positive => s.positive
  | .slow => s.slow
  | .clauses => s.clauses
  | .unknownOperator => s.unknownOperator
  | .typeMismatch => s.typeMismatch

def increment (s : Counters) : Counter → Counters
  | .total => { s with total := s.total + 1 }
  | .positive => { s with positive := s.positive + 1 }
  | .slow => { s with slow := s.slow + 1 }
  | .clauses => { s with clauses := s.clauses + 1 }
  | .unknownOperator => { s with unknownOperator := s.unknownOperator + 1 }
  | .typeMismatch => { s with typeMismatch := s.typeMismatch + 1 }

def incrementAll (s : Counters) (which : List Counter) : Counters := which.foldl increment s

def put (s : Counters) (c : Counter) (n : UInt64) : Counters :=
  match c with
  | .total => { s with total := n }
  | .positive => { s with positive := n }
  | .slow => { s with slow := n }
  | .clauses => { s with clauses := n }
  | .unknownOperator => { s with unknownOperator := n }
  | .typeMismatch => { s with typeMismatch := n }

@[simp] theorem get_increment (s : Counters) (c d : Counter) :
    (s.increment c).get d = if d = c then s.get d + 1 else s.get d := by
  cases c <;> cases d <;> rfl

@[simp] theorem get_put (s : Counters) (c d : Counter) (n : UInt64) :
    (s.put c n).get d = if d = c then n else s.get d := by
  cases c <;> cases d <;> rfl

@[simp] theorem incrementAll_nil (s : Counters) : s.incrementAll [] = s := rfl

theorem incrementAll_append (s : Counters) (first second : List Counter) :
    s.incrementAll (first ++ second) = (s.incrementAll first).incrementAll second :=
  List.foldl_append

def toList (s : Counters) : List UInt64 := Counter.all.map s.get

def text (s : Counters) : String :=
  String.join (Counter.all.map fun c =>
    "docmatch_" ++ c.name ++ " " ++ toString (s.get c).toNat ++ "\n")

def json (s : Counters) : String :=
  "\x7b" ++ ",".intercalate
    (Counter.all.map fun c => "\"" ++ c.name ++ "\":" ++ toString (s.get c).toNat) ++ "\x7d"

end Counters

/-- The counter of a kind of outcome. A match that says no has none of its own. -/
def outcomeCounter? : Except Failure Bool → Option Counter
  | .ok true => some .positive
  | .ok false => none
  | .error (.unknownOperator _) => some .unknownOperator
  | .error (.typeMismatch ..) => some .typeMismatch

def matchIncrements (outcome : Except Failure Bool) (slow : Bool) : List Counter :=
  .total :: (outcomeCounter? outcome).toList ++ if slow then [.slow] else []

inductive Count where
  | clause
  | matched (outcome : Except Failure Bool) (slow : Bool)

def Count.increments : Count → List Counter
  | clause => [.clauses]
  | matched outcome slow => matchIncrements outcome slow

inductive Turn where
  | count (index : Nat)
  | read
deriving DecidableEq, Repr

/-- Calls that count, beside a reader who copies the counters one by one. -/
structure Counting where
  counters : Counters := {}
  pending : List (List Counter)
  unread : List Counter := Counter.all
  copy : Counters := {}
deriving DecidableEq, Repr

namespace Counting

def step (s : Counting) : Turn → Counting
  | .count index =>
    match s.pending[index]? with
    | some (c :: rest) =>
      { s with counters := s.counters.increment c, pending := s.pending.set index rest }
    | _ => s
  | .read =>
    match s.unread with
    | c :: rest => { s with unread := rest, copy := s.copy.put c (s.counters.get c) }
    | [] => s

def run (s : Counting) (order : List Turn) : Counting := order.foldl step s

def ofCalls (calls : List Count) : Counting where
  pending := calls.map Count.increments

end Counting

def slowMatchLine (elapsed threshold : UInt64) (succeeded : Bool) : String :=
  "\x7b\"elapsed_us\":" ++ toString elapsed.toNat ++ ",\"event\":\"slow_match\",\"ok\":" ++
    (if succeeded then "true" else "false") ++
    ",\"threshold_us\":" ++ toString threshold.toNat ++ "\x7d"

/-- From how many microseconds on a match counts as slow, by a setting that may be missing. A
setting that is no number of 64 bits counts as missing. -/
def defaultThreshold (setting : Option String) : UInt64 :=
  (setting.bind fun s => readUInt64? s.toList).getD 1000

end Criteria
