/-!
# Sets of characters

A set of code points as a list of closed ranges. `CharSet.ofRanges` brings any ranges into the one
form that the other operations keep: in ascending order, with a gap between two neighbours.
-/

namespace SchemaSieve.Text

/-- A set of code points, given by closed ranges. -/
structure CharSet where
  ranges : List (Nat × Nat)
  deriving DecidableEq

namespace CharSet

def empty : CharSet := ⟨[]⟩

/-- The largest code point. -/
def maxCodePoint : Nat := 0x10FFFF

def contains (s : CharSet) (n : Nat) : Bool :=
  s.ranges.any fun r => r.1 ≤ n && n ≤ r.2

/-- Joins ranges in ascending order of their starts where they touch or overlap. -/
def join : List (Nat × Nat) → List (Nat × Nat)
  | [] => []
  | (lo, hi) :: rest =>
    match join rest with
    | [] => [(lo, hi)]
    | (lo', hi') :: rest' =>
      if lo' ≤ hi + 1 then (lo, max hi hi') :: rest' else (lo, hi) :: (lo', hi') :: rest'

/-- Puts a range before the first one that does not start earlier. -/
def place (r : Nat × Nat) : List (Nat × Nat) → List (Nat × Nat)
  | [] => [r]
  | q :: rest => if r.1 ≤ q.1 then r :: q :: rest else q :: place r rest

/-- The set of the code points in some ranges; a range that ends before it starts is empty. -/
def ofRanges (ranges : List (Nat × Nat)) : CharSet :=
  ⟨join ((ranges.filter fun r => r.1 ≤ r.2).foldr place [])⟩

def single (n : Nat) : CharSet := ⟨[(n, n)]⟩

def range (lo hi : Nat) : CharSet := ofRanges [(lo, hi)]

def union (a b : CharSet) : CharSet := ofRanges (a.ranges ++ b.ranges)

/-- The ranges between ascending ranges, from `start` up to `last`. -/
def gaps (last : Nat) : Nat → List (Nat × Nat) → List (Nat × Nat)
  | start, [] => if start ≤ last then [(start, last)] else []
  | start, (lo, hi) :: rest =>
    if start < lo then (start, lo - 1) :: gaps last (hi + 1) rest else gaps last (hi + 1) rest

/-- The code points up to `last` that are not in a set. -/
def complement (last : Nat) (s : CharSet) : CharSet := ofRanges (gaps last 0 s.ranges)

def inter (a b : CharSet) : CharSet :=
  ofRanges (a.ranges.flatMap fun r => b.ranges.map fun q => (max r.1 q.1, min r.2 q.2))

def diff (last : Nat) (a b : CharSet) : CharSet := a.inter (b.complement last)

def symmDiff (last : Nat) (a b : CharSet) : CharSet := (a.diff last b).union (b.diff last a)

/-- Whether all code points of a set are at most `last`. -/
def upTo (last : Nat) (s : CharSet) : Bool := s.ranges.all fun r => r.2 ≤ last

/-! ## Written sets -/

/-- The value of a hexadecimal digit in upper case. -/
private def hexValue (c : Char) : Nat :=
  if c.isDigit then c.toNat - '0'.toNat else c.toNat - 'A'.toNat + 10

/-- Reads ranges written in hexadecimal, such as `41-5A 5F 61-7A`: `first` is the start of the
range if its dash was read, `n` the number read so far. -/
private def readRanges : Option Nat → Option Nat → List Char → List (Nat × Nat)
  | first, n, [] => (n.map fun n => (first.getD n, n)).toList
  | first, n, c :: rest =>
    if c = '-' then readRanges n none rest
    else if c = ' ' then (n.map fun n => (first.getD n, n)).toList ++ readRanges none none rest
    else readRanges first (some (n.getD 0 * 16 + hexValue c)) rest

/-- The set that a table writes in hexadecimal, line by line. -/
def ofHex (lines : List String) : CharSet :=
  ofRanges (lines.flatMap fun line => readRanges none none line.toList)

end CharSet

end SchemaSieve.Text
