import MessageConstraints.Number.Rounding

/-!
# Numbers in text

Integers are an optional sign and decimal digits.  Floating point numbers are decimal fractions
with an optional exponent, or one of the words for an infinity and for no number in any mixture
of cases.  Nothing may stand before or after the number.
-/

namespace MessageConstraints

/-- The number that a row of decimal digits denotes; none for an empty row or another character. -/
def digits? (cs : List Char) : Option Nat :=
  if cs.isEmpty || !cs.all Char.isDigit then none
  else some (cs.foldl (fun acc c => acc * 10 + (c.toNat - 48)) 0)

/-- Splits off a sign: whether it is a minus, and the rest. -/
def splitSign : List Char → Bool × List Char
  | '-' :: rest => (true, rest)
  | '+' :: rest => (false, rest)
  | cs => (false, cs)

/-- An integer with an optional sign. -/
def signedInteger? (cs : List Char) : Option Int :=
  let (negative, rest) := splitSign cs
  (digits? rest).map fun n => if negative then -(n : Int) else n

/-- A natural number with an optional plus sign. -/
def unsignedInteger? : List Char → Option Nat
  | '+' :: rest => digits? rest
  | cs => digits? cs

/-- A number if it lies between two bounds, both included. -/
def within? (low high n : Int) : Option Int :=
  if low ≤ n ∧ n ≤ high then some n else none

/-- An integer if it is a signed one of so many bits. -/
def signedWithin? (bits : Nat) (n : Int) : Option Int :=
  let half : Int := (1 <<< (bits - 1) : Nat)
  within? (-half) (half - 1) n

/-- A natural number if it is an unsigned one of so many bits. -/
def unsignedWithin? (bits n : Nat) : Option Nat :=
  if n < 1 <<< bits then some n else none

/-- A decimal number `± coefficient * 10 ^ scale`. -/
structure Decimal where
  coefficient : Nat
  scale : Int
deriving Repr, DecidableEq

namespace Decimal

/-- The exponent after the letter that announces it. -/
def exponent? : List Char → Option Int
  | [] => some 0
  | c :: rest => if c = 'e' ∨ c = 'E' then signedInteger? rest else none

/-- A decimal fraction without a sign: digits around an optional point, at least one of them, and
an optional exponent. -/
def ofChars? (cs : List Char) : Option Decimal :=
  let whole := cs.takeWhile Char.isDigit
  let rest := cs.dropWhile Char.isDigit
  let (places, rest) :=
    match rest with
    | '.' :: after => (after.takeWhile Char.isDigit, after.dropWhile Char.isDigit)
    | _ => ([], rest)
  match digits? (whole ++ places), exponent? rest with
  | some coefficient, some exponent => some ⟨coefficient, exponent - places.length⟩
  | _, _ => none

end Decimal

namespace Binary

/-- The number that a text denotes, rounded to the format. -/
def ofChars? (format : BinaryFormat) (cs : List Char) : Option (Binary format) :=
  let (negative, rest) := splitSign cs
  let word := String.ofList (rest.map Char.toLower)
  if word = "nan" then some nan
  else if word = "inf" ∨ word = "infinity" then some (infinite negative)
  else
    (Decimal.ofChars? rest).map fun d => ofDecimal format negative d.coefficient d.scale

/-- The number that a text denotes, rounded to the format. -/
def ofText? (format : BinaryFormat) (s : String) : Option (Binary format) :=
  ofChars? format s.toList

end Binary

end MessageConstraints
