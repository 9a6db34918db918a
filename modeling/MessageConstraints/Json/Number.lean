import MessageConstraints.Json.Basic
import MessageConstraints.Number.Arithmetic
import MessageConstraints.Number.Reading

/-!
# Numbers in JSON

The grammar of JSON numbers and their values.  A number that is no 64-bit integer is read in two
roundings: its leading digits, as many as fit into 64 bits, are rounded to a floating point number,
which is then multiplied or divided by a rounded power of ten.  Numbers beyond the largest
finite one are refused; numbers too small to tell from zero are zero.
-/

namespace MessageConstraints

/-- The parts of a number: whether there is a minus, the digits before and after the point, and the
exponent.  No point means no digits after it. -/
structure NumberText where
  isNegative : Bool
  whole : List Char
  places : Option (List Char)
  exponent : Option Int
deriving Repr, DecidableEq

namespace NumberText

/-- The exponent that may end a number: absent, or present and well formed. -/
def exponent? : List Char → Option (Option Int)
  | [] => some none
  | c :: rest => if c = 'e' ∨ c = 'E' then (signedInteger? rest).map some else none

/-- The parts of a number.  There is at least one digit before the point and no needless zero, and
at least one digit after a point. -/
def ofChars? (cs : List Char) : Option NumberText :=
  let (isNegative, rest) : Bool × List Char :=
    match cs with
    | '-' :: rest => (true, rest)
    | _ => (false, cs)
  let whole := rest.takeWhile Char.isDigit
  let rest := rest.dropWhile Char.isDigit
  let (places, rest) : Option (List Char) × List Char :=
    match rest with
    | '.' :: after => (some (after.takeWhile Char.isDigit), after.dropWhile Char.isDigit)
    | _ => (none, rest)
  if whole.isEmpty || (whole.head? == some '0' && whole.length != 1) || places == some [] then none
  else (exponent? rest).map fun exponent => ⟨isNegative, whole, places, exponent⟩

end NumberText

namespace JsonNumber

/-- Appends digits to a number as long as it stays below `2 ^ 64`: the number, and how many digits
were appended. -/
def appendDigits (number : Nat) : List Char → Nat × Nat
  | [] => (number, 0)
  | c :: rest =>
    let next := number * 10 + (c.toNat - '0'.toNat)
    if next < 1 <<< 64 then
      let (result, count) := appendDigits next rest
      (result, count + 1)
    else (number, 0)

/-- A power of ten, rounded. -/
def powerOfTen (exponent : Nat) : Binary .double :=
  .ofDecimal .double false 1 exponent

/-- The largest exponent whose power of ten is finite. -/
def largestPower : Nat := 308

/-- A number divided by a power of ten, in steps of finite powers. -/
def divideByPower (x : Binary .double) (exponent : Nat) : Binary .double :=
  if x.isZero then x
  else if exponent ≤ largestPower then x.quotient (powerOfTen exponent)
  else divideByPower (x.quotient (powerOfTen largestPower)) (exponent - largestPower)
termination_by exponent
decreasing_by simp only [largestPower] at *; omega

/-- A number multiplied by a power of ten, if the result is finite. -/
def multiplyByPower? (x : Binary .double) (exponent : Nat) : Option (Binary .double) :=
  if x.isZero then some x
  else if largestPower < exponent then none
  else
    let product := x.product (powerOfTen exponent)
    if product.magnitude?.isSome then some product else none

/-- The floating point number that a text denotes. -/
def real? (text : NumberText) : Option (Binary .double) :=
  let places := text.places.getD []
  let (leading, wholeCount) := appendDigits 0 text.whole
  let (significand, placeCount) := appendDigits leading places
  let exponent : Int :=
    (text.whole.length - wholeCount : Nat) - (placeCount : Int) + text.exponent.getD 0
  let rounded := Binary.ofInt .double significand
  let size :=
    if exponent < 0 then some (divideByPower rounded (-exponent).toNat)
    else multiplyByPower? rounded exponent.toNat
  size.map fun x => if text.isNegative then x.negate else x

/-- The value of a number. -/
def ofText? (text : NumberText) : Option JsonNumber :=
  match text.places, text.exponent, digits? text.whole with
  | none, none, some n =>
    if text.isNegative then
      if 0 < n ∧ n ≤ 1 <<< 63 then some (negative n) else (real? text).map real
    else if n < 1 <<< 64 then some (natural n)
    else (real? text).map real
  | _, _, _ => (real? text).map real

/-- The value of a number in a JSON text. -/
def ofChars? (cs : List Char) : Option JsonNumber :=
  (NumberText.ofChars? cs).bind ofText?

end JsonNumber

end MessageConstraints
