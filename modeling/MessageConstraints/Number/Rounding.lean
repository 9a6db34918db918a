import MessageConstraints.Number.Binary

/-!
# Rounding to a binary format

The number of a format nearest to an exact quotient; of two equally near ones, the one whose
mantissa is even.  Quotients from the largest finite number's upper half step on become infinite.
-/

namespace MessageConstraints

/-- The nearest integer to a quotient; of two, the even one. -/
def roundHalfEven (num den : Nat) : Nat :=
  let low := num / den
  let rest := 2 * (num % den)
  if rest < den then low
  else if den < rest then low + 1
  else if low % 2 = 0 then low else low + 1

namespace Binary

/-- `num / den / 2 ^ exponent` as a quotient of natural numbers. -/
def scaleDown (num den : Nat) (exponent : Int) : Nat × Nat :=
  if exponent < 0 then (num <<< (-exponent).toNat, den) else (num, den <<< exponent.toNat)

/-- The largest power of two that a positive quotient reaches. -/
def floorLog2 (num den : Nat) : Int :=
  let guess : Int := (Nat.log2 num : Int) - (Nat.log2 den : Int)
  let (n, d) := scaleDown num den guess
  if d ≤ n then guess else guess - 1

/-- The number nearest to `± num / den`. -/
def ofRatio (format : BinaryFormat) (negative : Bool) (num den : Nat) : Binary format :=
  if num = 0 then finite negative 0 format.minExponent
  else
    let exponent := max format.minExponent (floorLog2 num den - (format.precision - 1))
    let (n, d) := scaleDown num den exponent
    let mantissa := roundHalfEven n d
    let (mantissa, exponent) :=
      if mantissa = 1 <<< format.precision then (1 <<< (format.precision - 1), exponent + 1)
      else (mantissa, exponent)
    if format.maxExponent < exponent + format.precision then infinite negative
    else finite negative mantissa exponent

/-- The number nearest to `± coefficient * 10 ^ scale`.  Quotients that are out of the format's
reach by their decimal length alone are settled before any power of ten is computed. -/
def ofDecimal (format : BinaryFormat) (negative : Bool) (coefficient : Nat) (scale : Int) :
    Binary format :=
  if coefficient = 0 then finite negative 0 format.minExponent
  else
    let top : Int := (Nat.toDigits 10 coefficient).length + scale
    if format.maxExponent < 3 * (top - 1) then infinite negative
    else if 3 * top < format.minExponent - 1 then finite negative 0 format.minExponent
    else if scale < 0 then ofRatio format negative coefficient (Nat.pow 10 (-scale).toNat)
    else ofRatio format negative (coefficient * Nat.pow 10 scale.toNat) 1

/-- A number in another format, rounded if it has to be. -/
def convert (target : BinaryFormat) {format : BinaryFormat} : Binary format → Binary target
  | nan => nan
  | infinite negative => infinite negative
  | finite negative mantissa exponent =>
    if exponent < 0 then ofRatio target negative mantissa (1 <<< (-exponent).toNat)
    else ofRatio target negative (mantissa <<< exponent.toNat) 1

/-- The number of a format nearest to an integer. -/
def ofInt (format : BinaryFormat) (n : Int) : Binary format :=
  ofRatio format (decide (n < 0)) n.natAbs 1

end Binary

end MessageConstraints
