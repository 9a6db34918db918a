import MessageConstraints.Number.Binary

/-!
# Shortest decimal digits

The fewest decimal digits that are read back as the same number, and of those the nearest to it.
A binary number is a decimal integer at some power of ten, and so are the ends of the interval
that is rounded to it.  The search therefore runs on integers: it cuts the number after one digit,
after two, and so on, until the cut or its upper neighbour lies in the interval.
-/

namespace MessageConstraints

/-- A row of decimal digits, `digits * 10 ^ scale`. -/
structure Shortest where
  digits : List Char
  scale : Int
deriving Repr, DecidableEq

namespace Shortest

/-- An interval of integers around a value; its ends belong to it if it is closed. -/
structure Interval where
  low : Nat
  value : Nat
  high : Nat
  closed : Bool
deriving Repr, DecidableEq

namespace Interval

/-- Whether an integer lies in the interval. -/
def holds (i : Interval) (n : Nat) : Bool :=
  if i.closed then i.low ≤ n && n ≤ i.high else i.low < n && n < i.high

/-- The multiple of `10 ^ k` in the interval that is nearest to the value, counted in units of
`10 ^ k`; the upper one if two are equally near. -/
def cut? (i : Interval) (k : Nat) : Option Nat :=
  let unit := Nat.pow 10 k
  let below := i.value / unit
  let rest := i.value % unit
  let fitsBelow := i.holds (below * unit)
  let fitsAbove := i.holds ((below + 1) * unit)
  if rest = 0 then some below
  else if fitsBelow && (!fitsAbove || 2 * rest < unit) then some below
  else if fitsAbove then some (below + 1)
  else none

/-- The first cut that succeeds, from `10 ^ k` down; at the units the value itself is one. -/
def firstCut (i : Interval) : Nat → Nat × Nat
  | 0 => (i.value, 0)
  | k + 1 =>
    match i.cut? (k + 1) with
    | some n => (n, k + 1)
    | none => i.firstCut k

end Interval

/-- The interval that is rounded to `mantissa * 2 ^ exponent`, in quarters of its last place and
in units of the power of ten that is given with it.  Below a power of two the last place is half
as large, unless the format has no smaller one. -/
def interval (format : BinaryFormat) (mantissa : Nat) (exponent : Int) : Interval × Int :=
  let quarter := exponent - 2
  let (unit, scale) :=
    if quarter < 0 then (Nat.pow 5 (-quarter).toNat, quarter) else (1 <<< quarter.toNat, 0)
  let narrow := mantissa = 1 <<< (format.precision - 1) ∧ format.minExponent < exponent
  (⟨(4 * mantissa - if narrow then 1 else 2) * unit, 4 * mantissa * unit,
    (4 * mantissa + 2) * unit, mantissa % 2 = 0⟩, scale)

/-- The shortest digits of a positive number `mantissa * 2 ^ exponent`. -/
def ofFinite (format : BinaryFormat) (mantissa : Nat) (exponent : Int) : Shortest :=
  let (i, scale) := interval format mantissa exponent
  let (n, k) := i.firstCut ((Nat.toDigits 10 i.value).length - 1)
  let digits := (Nat.toDigits 10 n).reverse
  let zeros := (digits.takeWhile (· == '0')).length
  ⟨(digits.drop zeros).reverse, scale + k + zeros⟩

end Shortest

end MessageConstraints
