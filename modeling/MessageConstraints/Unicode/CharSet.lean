/-!
# Sets of characters

A set of characters as ranges of code points, in ascending order and apart from each other.  The
set operations of character classes work on the ranges; the tables of character classes are read
into such sets.
-/

namespace MessageConstraints

/-- A set of code points: ranges with both ends included, ascending and apart. -/
structure CharSet where
  ranges : List (Nat × Nat)
deriving Repr, DecidableEq

namespace CharSet

/-- The largest code point. -/
def maxCode : Nat := 0x10FFFF

/-- The empty set. -/
def empty : CharSet := ⟨[]⟩

/-- All code points. -/
def full : CharSet := ⟨[(0, maxCode)]⟩

/-- The code points from one to another. -/
def range (low high : Nat) : CharSet :=
  if low ≤ high then ⟨[(low, high)]⟩ else empty

/-- A single character. -/
def single (c : Char) : CharSet := range c.toNat c.toNat

/-- Joins a range to ascending ranges that start no earlier. -/
def absorb (range : Nat × Nat) : List (Nat × Nat) → List (Nat × Nat)
  | [] => [range]
  | next :: rest =>
    if next.1 ≤ range.2 + 1 then absorb (range.1, max range.2 next.2) rest
    else range :: absorb next rest

/-- The set that some ranges cover, in whatever order they come. -/
def ofRanges (ranges : List (Nat × Nat)) : CharSet :=
  match ranges.mergeSort fun a b => decide (a.1 ≤ b.1) with
  | [] => empty
  | first :: rest => ⟨absorb first rest⟩

/-- The code points of either set. -/
def union (a b : CharSet) : CharSet :=
  if b.ranges.isEmpty then a else ofRanges (a.ranges ++ b.ranges)

/-- The code point of the next character; surrogates are passed over. -/
def next (n : Nat) : Nat := if n = 0xD7FF then 0xE000 else n + 1

/-- The code point of the character before; surrogates are passed over. -/
def previous (n : Nat) : Nat := if n = 0xE000 then 0xD7FF else n - 1

/-- The range between two code points, whichever of them is smaller. -/
def ordered (a b : Nat) : Nat × Nat := (min a b, max a b)

/-- The gaps between ascending ranges and after them, from the end of a range on.  Two ranges that
are apart by the surrogates alone have no character between them; the range written for their gap
has its ends the wrong way round, and so takes in the last character of the one and the first of
the other. -/
def gapsAfter (last : Nat) : List (Nat × Nat) → List (Nat × Nat)
  | [] => if last < maxCode then [(next last, maxCode)] else []
  | (low, high) :: rest => ordered (next last) (previous low) :: gapsAfter high rest

/-- The code points that are not in the set. -/
def complement (a : CharSet) : CharSet :=
  match a.ranges with
  | [] => full
  | (low, high) :: rest =>
    ⟨(if 0 < low then [(0, previous low)] else []) ++ gapsAfter high rest⟩

/-- What two ranges have in common. -/
def common? (a b : Nat × Nat) : Option (Nat × Nat) :=
  let low := max a.1 b.1
  let high := min a.2 b.2
  if low ≤ high then some (low, high) else none

/-- The code points of both sets. -/
def intersection (a b : CharSet) : CharSet :=
  ⟨a.ranges.flatMap fun range => b.ranges.filterMap (common? range)⟩

/-- What ascending ranges leave of the code points from one to another. -/
def cut (low high : Nat) : List (Nat × Nat) → List (Nat × Nat)
  | [] => [(low, high)]
  | (first, last) :: rest =>
    if last < low then cut low high rest
    else if high < first then [(low, high)]
    else
      (if low < first then [(low, previous first)] else []) ++
        (if last < high then cut (next last) high rest else [])

/-- The code points of the first set that are not in the second. -/
def difference (a b : CharSet) : CharSet :=
  ⟨a.ranges.flatMap fun range => cut range.1 range.2 b.ranges⟩

/-- The code points of exactly one of the sets. -/
def symmetricDifference (a b : CharSet) : CharSet :=
  (a.union b).difference (a.intersection b)

/-- Whether a code point lies in one of some ascending ranges. -/
def holdsIn (n : Nat) : List (Nat × Nat) → Bool
  | [] => false
  | (low, high) :: rest => if n < low then false else n ≤ high || holdsIn n rest

/-- Whether a code point is in the set. -/
def holds (a : CharSet) (n : Nat) : Bool :=
  holdsIn n a.ranges

/-- Whether a character is in the set. -/
def contains (a : CharSet) (c : Char) : Bool :=
  a.holds c.toNat

/-- Whether the set has no code point from 128 on. -/
def isAscii (a : CharSet) : Bool :=
  a.ranges.all fun range => decide (range.2 < 128)

/-- The value of a digit of base 36. -/
def digitValue (c : Char) : Nat :=
  if c.isDigit then c.toNat - 48 else c.toNat - 87

/-- Reads numbers in base 36 that are set apart by spaces. -/
def numbers (text : String) : List Nat :=
  let step := fun (acc : List Nat × Nat) (c : Char) =>
    if c == ' ' then (acc.2 :: acc.1, 0) else (acc.1, acc.2 * 36 + digitValue c)
  let (done, last) := text.foldl step ([], 0)
  (last :: done).reverse

/-- The ranges that a list of numbers describes: by turns code points passed over and taken. -/
def ofRuns (position : Nat) : List Nat → List (Nat × Nat)
  | skipped :: taken :: rest =>
    let low := position + skipped
    (low, low + taken - 1) :: ofRuns (low + taken) rest
  | _ => []

/-- A set as the tables of character classes write it. -/
def decode (text : String) : CharSet :=
  if text.isEmpty then empty else ⟨ofRuns 0 (numbers text)⟩

end CharSet

end MessageConstraints
