import Criteria.Unicode.CharSet

/-!
# Characters as bytes

In UTF-8 a character has one to four bytes. The characters of a range become a few sequences of byte
ranges, each of which stands for all combinations of its bytes.
-/

namespace Criteria.Unicode.Encoding

abbrev ByteRange := Nat × Nat

/-- Code points that take equally many bytes: the first and the last one, the bytes behind the first
byte, and the mark of the first byte. Surrogates are left out. -/
def lengthClasses : List (Nat × Nat × Nat × Nat) :=
  [(0x0, 0x7f, 0, 0x0), (0x80, 0x7ff, 1, 0xc0), (0x800, 0xd7ff, 2, 0xe0), (0xe000, 0xffff, 2, 0xe0),
    (0x10000, 0x10ffff, 3, 0xf0)]

def anyRest (count : Nat) : List ByteRange := List.replicate count (0x80, 0xbf)

/-- The sequences of a range of numbers that are written in so many groups of six bits behind a
first group, which carries a mark. -/
def sequences (mark : Nat) : (count low high : Nat) → List (List ByteRange)
  | 0, low, high => [[(mark + low, mark + high)]]
  | count + 1, low, high =>
    let unit := Nat.pow 64 (count + 1)
    let first := low / unit
    let last := high / unit
    let below (lead low high : Nat) :=
      (sequences 0x80 count low high).map fun rest => (mark + lead, mark + lead) :: rest
    if first = last then below first (low % unit) (high % unit)
    else
      let start := if low % unit = 0 then [] else below first (low % unit) (unit - 1)
      let stop := if high % unit = unit - 1 then [] else below last 0 (high % unit)
      let from' := if low % unit = 0 then first else first + 1
      let upTo := if high % unit = unit - 1 then last + 1 else last
      let middle :=
        if from' < upTo then [(mark + from', mark + upTo - 1) :: anyRest (count + 1)] else []
      start ++ middle ++ stop

def ofSet (s : CharSet) : List (List ByteRange) :=
  s.ranges.flatMap fun (low, high) =>
    lengthClasses.flatMap fun (least, greatest, count, mark) =>
      let low := max low least
      let high := min high greatest
      if low ≤ high then sequences mark count low high else []

end Criteria.Unicode.Encoding
