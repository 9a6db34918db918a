import MessageConstraints.Number.Rounding

/-!
# Products and quotients

Multiplication and division of binary floating point numbers: the exact result, rounded once.
-/

namespace MessageConstraints

namespace Binary

variable {format : BinaryFormat}

/-- Whether a minus sign stands before a number. -/
def isNegative : Binary format → Bool
  | nan => false
  | infinite negative => negative
  | finite negative _ _ => negative

/-- The size of a finite number as a quotient; none for the others. -/
def magnitude? : Binary format → Option (Nat × Nat)
  | finite _ mantissa exponent =>
    some (mantissa <<< exponent.toNat, 1 <<< (-exponent).toNat)
  | _ => none

/-- The product of two numbers. -/
def product (x y : Binary format) : Binary format :=
  let negative := x.isNegative != y.isNegative
  match x.magnitude?, y.magnitude? with
  | some (xNum, xDen), some (yNum, yDen) => ofRatio format negative (xNum * yNum) (xDen * yDen)
  | _, _ =>
    if x.isNaN || y.isNaN || x.isZero || y.isZero then nan else infinite negative

/-- The quotient of two numbers. -/
def quotient (x y : Binary format) : Binary format :=
  let negative := x.isNegative != y.isNegative
  match x.magnitude?, y.magnitude? with
  | some (xNum, xDen), some (yNum, yDen) =>
    if yNum = 0 then (if xNum = 0 then nan else infinite negative)
    else ofRatio format negative (xNum * yDen) (xDen * yNum)
  | none, some _ => if x.isNaN then nan else infinite negative
  | some _, none => if y.isNaN then nan else finite negative 0 format.minExponent
  | none, none => nan

/-- A number with the opposite sign. -/
def negate : Binary format → Binary format
  | nan => nan
  | infinite negative => infinite (!negative)
  | finite negative mantissa exponent => finite (!negative) mantissa exponent

/-- The integer that a number is; none for a fraction and for what is not finite. -/
def toInt? : Binary format → Option Int
  | finite negative mantissa exponent =>
    let num := mantissa <<< exponent.toNat
    let den := 1 <<< (-exponent).toNat
    if num % den = 0 then
      some (if negative then -((num / den : Nat) : Int) else ((num / den : Nat) : Int))
    else none
  | _ => none

end Binary

end MessageConstraints
