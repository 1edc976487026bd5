import Criteria.Number.Numeral

/-!
# Sets of characters

A set is a list of ranges of code points in increasing order, with a gap between any two of them.
Every operation keeps that form, so a member is found, or missed, in one pass.
-/

namespace Criteria

/-- Inclusive ranges of code points, increasing and not touching. -/
structure CharSet where
  ranges : List (Nat × Nat)
deriving DecidableEq, Repr, Inhabited

namespace CharSet

def lastCodePoint : Nat := 0x10ffff

def empty : CharSet := ⟨[]⟩

def all : CharSet := ⟨[(0, lastCodePoint)]⟩

def ascii : CharSet := ⟨[(0, 127)]⟩

def ofRange (low high : Nat) : CharSet := if low ≤ high then ⟨[(low, high)]⟩ else empty

def single (c : Nat) : CharSet := ⟨[(c, c)]⟩

def isEmpty (s : CharSet) : Bool := s.ranges.isEmpty

def memRanges (c : Nat) : List (Nat × Nat) → Bool
  | [] => false
  | (low, high) :: rest => if c < low then false else c ≤ high || memRanges c rest

def contains (s : CharSet) (c : Nat) : Bool := memRanges c s.ranges

def containsChar (s : CharSet) (c : Char) : Bool := s.contains c.toNat

def joinRanges : List (Nat × Nat) → List (Nat × Nat)
  | [] => []
  | range :: rest => go range rest
where
  go (current : Nat × Nat) : List (Nat × Nat) → List (Nat × Nat)
    | [] => [current]
    | next :: rest =>
      if next.1 ≤ current.2 + 1 then go (current.1, max current.2 next.2) rest
      else current :: go next rest

def ofRanges (ranges : List (Nat × Nat)) : CharSet :=
  ⟨joinRanges ((ranges.filter fun r => r.1 ≤ r.2).mergeSort fun a b => a.1 ≤ b.1)⟩

def union (s t : CharSet) : CharSet :=
  ⟨joinRanges (s.ranges.merge t.ranges fun a b => a.1 ≤ b.1)⟩

def after (c : Nat) : Nat := if c = 0xd7ff then 0xe000 else c + 1

def before (c : Nat) : Nat := if c = 0xe000 then 0xd7ff else c - 1

/-- The gaps behind a range that ends with a character and between the ranges that follow it. Where
only surrogates lie between two ranges, the gap is made up of the characters on both sides. -/
def gaps (last : Nat) : List (Nat × Nat) → List (Nat × Nat)
  | [] => if last < lastCodePoint then [(after last, lastCodePoint)] else []
  | (low, high) :: rest =>
    (min (after last) (before low), max (after last) (before low)) :: gaps high rest

def complement (s : CharSet) : CharSet :=
  match s.ranges with
  | [] => all
  | (low, high) :: rest =>
    ⟨(if 0 < low then [(0, before low)] else []) ++ gaps high rest⟩

def clip? (r q : Nat × Nat) : Option (Nat × Nat) :=
  if max r.1 q.1 ≤ min r.2 q.2 then some (max r.1 q.1, min r.2 q.2) else none

def cut (q r : Nat × Nat) : List (Nat × Nat) :=
  match clip? r q with
  | none => [r]
  | some (low, high) =>
    (if r.1 < low then [(r.1, before low)] else []) ++
      (if high < r.2 then [(after high, r.2)] else [])

def inter (s t : CharSet) : CharSet :=
  ⟨s.ranges.flatMap fun r => t.ranges.filterMap (clip? r)⟩

def diff (s t : CharSet) : CharSet :=
  ⟨t.ranges.foldl (fun ranges q => ranges.flatMap (cut q)) s.ranges⟩

def symmDiff (s t : CharSet) : CharSet := (s.union t).diff (s.inter t)

def isAscii (s : CharSet) : Bool := s.ranges.all fun r => r.2 ≤ 127

def unions (sets : List CharSet) : CharSet := ofRanges (sets.flatMap CharSet.ranges)

def runs (next : Nat) : List Nat → List (Nat × Nat)
  | gap :: extent :: rest =>
    (next + gap, next + gap + extent) :: runs (next + gap + extent + 1) rest
  | _ => []

/-- Unpacks rows of hexadecimal numbers: the gap before each range and its length less one. -/
def ofTable (rows : List String) : CharSet :=
  ⟨runs 0 ((rows.flatMap fun row => row.splitOn " ").filterMap fun word => readHex? word.toList)⟩

end CharSet

end Criteria
