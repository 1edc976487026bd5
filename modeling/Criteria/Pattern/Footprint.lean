import Criteria.Pattern.Form
import Criteria.Unicode.Encoding
import Std.Data.TreeMap

/-!
# The size of a pattern

A pattern takes room in proportion to what it spells out: a repetition with bounds counts as copies,
and a class counts by the byte sequences of its characters. The room is that of a machine with a
state for each step, once for reading a text forward and once for reading it backward, where groups
are not looked at. States are laid out one after the other and are known by their number. A way out
of a state takes room of its own, more of it where several depend on the next byte than where they
need none. A pattern that takes too much room either way is refused.
-/

namespace Criteria.Pattern

open Unicode.Encoding

def stateSize : Nat := 32

def transitionSize : Nat := 8

def branchSize : Nat := 4

def maxFootprint : Nat := 10 * 1024 * 1024

def maxBytes : Nat := 4

/-- The part of a machine that has been laid out. -/
structure Machine where
  states : Nat := 0
  room : Nat := 0
deriving DecidableEq, Repr

namespace Machine

def add? (m : Machine) (states : Nat) (extra : Nat) : Option Machine :=
  let room := m.room + states * stateSize + extra
  if room ≤ maxFootprint then some ⟨m.states + states, room⟩ else none

def addFork? (m : Machine) (ways : Nat) : Option Machine := m.add? 1 (ways * branchSize)

def addSwitch? (m : Machine) (ways : Nat) : Option Machine := m.add? 1 (ways * transitionSize)

def addJoint? (m : Machine) : Option Machine := m.add? 1 0

end Machine

def times? (step : Machine → Option Machine) : Nat → Machine → Option Machine
  | 0, m => some m
  | n + 1, m =>
    match step m with
    | some m => times? step n m
    | none => none

/-- What may follow each first element of sequences in order; neighbours with the same first element
are taken together, and empty sequences are left out. -/
def branches {α : Type} [DecidableEq α] : List (List α) → List (α × List (List α))
  | [] => []
  | [] :: rest => branches rest
  | (first :: tail) :: rest =>
    match branches rest with
    | (a, tails) :: more => if a = first then (a, tail :: tails) :: more
        else (first, [tail]) :: (a, tails) :: more
    | [] => [(first, [tail])]

structure Arc where
  range : ByteRange
  next : Nat
deriving DecidableEq, Repr

def slot (slots : Nat) (numbers : List Nat) : Nat :=
  let mixed : UInt64 := numbers.foldl (fun (h : UInt64) n => (h ^^^ n.toUInt64) * 1099511628211)
    14695981039346656037
  mixed.toNat % slots

/-- States that can be shared. Of those that fall into one slot, only the last one is known. -/
structure Sharing (key : Type) where
  machine : Machine
  known : Std.TreeMap Nat (key × Nat) := {}

namespace Sharing

def find? {key : Type} [DecidableEq key] (s : Sharing key) (slot : Nat) (k : key) (extra : Nat) :
    Option (Nat × Sharing key) :=
  match s.known.get? slot with
  | some (k', state) => if k' = k then some (state, s) else make
  | none => make
where
  make : Option (Nat × Sharing key) :=
    (s.machine.add? 1 extra).map fun m =>
      (s.machine.states, ⟨m, s.known.insert slot (k, s.machine.states)⟩)

end Sharing

def endingSlots : Nat := 10000

def beginningSlots : Nat := 1000

def stateOf? (s : Sharing (List Arc)) (arcs : List Arc) : Option (Nat × Sharing (List Arc)) :=
  let numbers := arcs.flatMap fun arc => [arc.range.1, arc.range.2, arc.next]
  s.find? (slot endingSlots numbers) arcs (arcs.length * transitionSize)

/-- Lays out the states that read sequences to their ends, down to a depth; those that have the same
endings are shared. The answer is the state that comes first. -/
def shareEndings? (target : Nat) :
    Nat → List (List ByteRange) → Sharing (List Arc) → Option (Nat × Sharing (List Arc))
  | 0, _, s => some (target, s)
  | depth + 1, sequences, s =>
    match branches sequences with
    | [] => some (target, s)
    | ways => do
      let (arcs, s) ← ways.foldlM (fun (arcs, s) (range, tails) => do
        let (next, s) ← shareEndings? target depth tails s
        return (⟨range, next⟩ :: arcs, s)) (([] : List Arc), s)
      stateOf? s arcs.reverse

def shareBeginnings? : Nat → List ByteRange → Sharing Arc → Option (Sharing Arc)
  | _, [], s => some s
  | next, range :: rest, s => do
    let (state, s) ← s.find? (slot beginningSlots [next, range.1, range.2]) ⟨range, next⟩ 0
    shareBeginnings? state rest s

def layoutClass? (backward : Bool) (s : CharSet) (m : Machine) : Option Machine :=
  if s.isAscii then do (← m.addJoint?).addSwitch? s.ranges.length
  else
    let sequences := ofSet s
    if backward then do
      let m ← m.addFork? sequences.length
      let target := m.states
      let s : Sharing Arc := { machine := ← m.addJoint? }
      let s ← sequences.foldlM (fun s sequence => shareBeginnings? target sequence s) s
      return s.machine
    else do
      let target := m.states
      let m ← m.addJoint?
      let (_, s) ← shareEndings? target maxBytes sequences { machine := m }
      return s.machine

def batches {α : Type} : List (List α) → List (List (List α))
  | [] => [[]]
  | [] :: rest => [] :: batches rest
  | text :: rest =>
    match batches rest with
    | batch :: more => (text :: batch) :: more
    | [] => [[text]]

def dropEmpties {α : Type} : List (List α) → List (List α)
  | [] :: [] :: rest => dropEmpties ([] :: rest)
  | texts => texts

/-- Lays out a tree of texts, down to a depth. The ways out of a node come in batches: a text that
ends at the node closes the batch under way. A node with no way out needs no state. -/
def layoutTree? : Nat → List (List UInt8) → Machine → Option Machine
  | 0, _, m => some m
  | depth + 1, texts, m =>
    if texts.all List.isEmpty then some m
    else do
      let batches := batches (dropEmpties texts)
      let ways := batches.map fun batch =>
        branches (batch.mergeSort fun s t => s.headD 0 ≤ t.headD 0)
      let m ← ways.foldlM (fun m batch => do
        let m ← batch.foldlM (fun m (_, tails) => layoutTree? depth tails m) m
        match batch with
        | [] => some m
        | [_] => m.addJoint?
        | _ => m.addSwitch? batch.length) m
      m.addFork? ((ways.filter fun batch => !batch.isEmpty).length + (batches.length - 1))

def textsOf? : List Form → Option (List (List UInt8))
  | [] => some []
  | .text chars :: rest => (textsOf? rest).map (chars.flatMap String.utf8EncodeChar :: ·)
  | _ => none

def layoutTexts? (backward : Bool) (texts : List (List UInt8)) (m : Machine) : Option Machine := do
  let texts := if backward then texts.map List.reverse else texts
  let depth := (texts.map List.length).foldl max 0
  layoutTree? depth texts (← m.addJoint?)

def layoutRepeated? (body : Machine → Option Machine) (consumes : Bool) (min : Nat)
    (max : Option Nat) (m : Machine) : Option Machine :=
  match min, max with
  | 0, some 1 => do (← body (← m.addFork? 2)).addJoint?
  | 0, none =>
    if consumes then do body (← m.addFork? 2)
    else do (← (← (← body m).addFork? 2).addFork? 2).addJoint?
  | min, none => do (← times? body min m).addFork? 2
  | min, some max => do
    let m ← if min = 0 then m.addJoint? else times? body min m
    if min = max then some m
    else times? (fun m => do body (← m.addFork? 2)) (max - min) (← m.addJoint?)

mutual

def Form.layout? (backward : Bool) : Form → Machine → Option Machine
  | .empty, m => m.addJoint?
  | .text chars, m => m.add? (chars.map Char.utf8Size).sum 0
  | .set s, m => layoutClass? backward s m
  | .assertion _, m => m.addJoint?
  | .repeated body min max _, m =>
    layoutRepeated? (fun m => body.layout? backward m) body.consumes min max m
  | .group body, m =>
    if backward then body.layout? backward m
    else do (← body.layout? backward (← m.addJoint?)).addJoint?
  | .concat parts, m => layoutParts? backward parts m
  | .alternate branches, m =>
    match textsOf? branches with
    | some texts => layoutTexts? backward texts m
    | none => layoutBranches? backward branches.length 0 branches m

def layoutParts? (backward : Bool) : List Form → Machine → Option Machine
  | [], m => some m
  | e :: rest, m =>
    if backward then (layoutParts? backward rest m).bind (e.layout? backward)
    else (e.layout? backward m).bind (layoutParts? backward rest)

/-- Lays out the rest of so many branches, after those before them. The states before and behind all
branches come after the second one. -/
def layoutBranches? (backward : Bool) (count before : Nat) : List Form → Machine → Option Machine
  | [], m => some m
  | e :: rest, m => do
    let m ← e.layout? backward m
    let m ← if before = 1 then (← m.addFork? count).addJoint? else some m
    layoutBranches? backward count (before + 1) rest m

end

def layoutSkip? (m : Machine) : Option Machine := do
  (← (← m.addFork? 2).addJoint?).addSwitch? 1

def Form.fitsForward (e : Form) : Bool :=
  let machine? := do
    let m ← if e.startsWith .textStart then Machine.addJoint? {} else layoutSkip? {}
    (← e.layout? false (← m.addJoint?)).add? 2 0
  machine?.isSome

def Form.fitsBackward (e : Form) : Bool :=
  let machine? := do
    let m ← if e.endsWith .textEnd then Machine.addJoint? {} else layoutSkip? {}
    (← e.layout? true m).addJoint?
  machine?.isSome

/-- As many texts are looked up in a list of their own and need no machine. -/
def manyTexts : Nat := 3000

def Form.isManyTexts : Form → Bool
  | .alternate branches => manyTexts ≤ branches.length && (textsOf? branches).isSome
  | _ => false

def Form.fits (e : Form) : Bool := e.isManyTexts || (e.fitsForward && e.fitsBackward)

def Expr.fits (e : Expr) : Bool := e.form.fits

end Criteria.Pattern
