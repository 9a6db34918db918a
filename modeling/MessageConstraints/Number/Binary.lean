/-!
# Binary floating point numbers

A number of a binary format is a signed multiple of a power of two, an infinity, or no number.
Nothing here goes through machine words: values are exact, so comparing two of them is integer
arithmetic.  As in every binary format, no number compares with nothing, not even itself, and the
two zeros are equal.
-/

namespace MessageConstraints

/-- A binary format: how many significant bits its numbers have, the exponent of its smallest
step, and the power of two at which its finite numbers end. -/
structure BinaryFormat where
  precision : Nat
  minExponent : Int
  maxExponent : Int
deriving Repr, DecidableEq

namespace BinaryFormat

/-- The format of `float` fields. -/
def single : BinaryFormat := ⟨24, -149, 128⟩

/-- The format of `double` fields. -/
def double : BinaryFormat := ⟨53, -1074, 1024⟩

end BinaryFormat

/-- A number of a binary format; a finite one is `± mantissa * 2 ^ exponent`. -/
inductive Binary (format : BinaryFormat) where
  | nan
  | infinite (negative : Bool)
  | finite (negative : Bool) (mantissa : Nat) (exponent : Int)
deriving Repr, DecidableEq

namespace Binary

variable {format : BinaryFormat}

/-- The positive zero. -/
def zero : Binary format := finite false 0 format.minExponent

instance : Inhabited (Binary format) := ⟨zero⟩

/-- Whether this is no number. -/
def isNaN : Binary format → Bool
  | nan => true
  | _ => false

/-- Whether this is one of the two zeros. -/
def isZero : Binary format → Bool
  | finite _ mantissa _ => mantissa == 0
  | _ => false

/-- The signed count of steps of size `2 ^ floor` in a finite number, for a floor that is not
above its exponent. -/
def steps (negative : Bool) (mantissa : Nat) (exponent floor : Int) : Int :=
  let size : Int := (mantissa <<< (exponent - floor).toNat : Nat)
  if negative then -size else size

/-- The order of two numbers; none if one of them is no number. -/
def compare? : Binary format → Binary format → Option Ordering
  | nan, _ => none
  | _, nan => none
  | infinite a, infinite b => some (if a == b then .eq else if a then .lt else .gt)
  | infinite a, finite .. => some (if a then .lt else .gt)
  | finite .., infinite b => some (if b then .gt else .lt)
  | finite n₁ m₁ e₁, finite n₂ m₂ e₂ =>
    let floor := min e₁ e₂
    some (compare (steps n₁ m₁ e₁ floor) (steps n₂ m₂ e₂ floor))

/-- Strictly below. -/
def lt (x y : Binary format) : Bool := compare? x y == some .lt

/-- Below or equal. -/
def le (x y : Binary format) : Bool :=
  compare? x y == some .lt || compare? x y == some .eq

/-- Equal as numbers. -/
def same (x y : Binary format) : Bool := compare? x y == some .eq

/-- The value of a finite number. -/
def ratio (negative : Bool) (mantissa : Nat) (exponent : Int) : Rat :=
  let size : Int := mantissa
  (if negative then -size else size : Int) * 2 ^ exponent

/-- What a number is worth: an infinity, or a quotient that shows neither the format nor the sign
of a zero. -/
inductive Worth where
  | infinite (negative : Bool)
  | finite (value : Rat)
deriving Repr, DecidableEq

/-- What a number is worth, unless it is no number. -/
def worth? : Binary format → Option Worth
  | nan => none
  | infinite negative => some (.infinite negative)
  | finite negative mantissa exponent => some (.finite (ratio negative mantissa exponent))

end Binary

end MessageConstraints
