import MessageConstraints.Number.Shortest

/-!
# Layouts of numbers

How shortest digits are set out: with a point among them, or with an exponent after them.
-/

namespace MessageConstraints

/-- The choices that a notation of floating point numbers makes. -/
structure Layout where
  /-- What a whole number ends with. -/
  wholeSuffix : List Char
  /-- The powers of ten between which no exponent is written, if one is ever written. -/
  positional : Option (Int × Int)
deriving Repr, DecidableEq

namespace Layout

/-- The notation of values in messages: never an exponent, and no point in whole numbers. -/
def plain : Layout := ⟨[], none⟩

/-- The notation of values in error texts: whole numbers end in `.0`, and an exponent is written
below `10 ^ -4` and from `10 ^ 16` on. -/
def literal : Layout := ⟨['.', '0'], some (-4, 16)⟩

/-- Digits with the point put where the scale says. -/
def point (layout : Layout) (s : Shortest) : List Char :=
  if 0 ≤ s.scale then s.digits ++ List.replicate s.scale.toNat '0' ++ layout.wholeSuffix
  else
    let places := (-s.scale).toNat
    if places < s.digits.length then
      let whole := s.digits.length - places
      s.digits.take whole ++ '.' :: s.digits.drop whole
    else '0' :: '.' :: (List.replicate (places - s.digits.length) '0' ++ s.digits)

/-- Digits with the point after the first one and an exponent. -/
def scientific (s : Shortest) : List Char :=
  let exponent := s.scale + s.digits.length - 1
  let fraction := s.digits.drop 1
  s.digits.take 1 ++ (if fraction.isEmpty then [] else '.' :: fraction)
    ++ 'e' :: (toString exponent).toList

/-- A positive number's digits in this layout. -/
def digits (layout : Layout) (s : Shortest) : List Char :=
  let top := s.scale + s.digits.length
  match layout.positional with
  | some (low, high) => if low < top ∧ top ≤ high then layout.point s else scientific s
  | none => layout.point s

/-- A number in this layout. -/
def number (layout : Layout) {format : BinaryFormat} : Binary format → List Char
  | .nan => ['N', 'a', 'N']
  | .infinite negative => (if negative then ['-'] else []) ++ ['i', 'n', 'f']
  | .finite negative mantissa exponent =>
    (if negative then ['-'] else [])
      ++ if mantissa = 0 then '0' :: layout.wholeSuffix
         else layout.digits (Shortest.ofFinite format mantissa exponent)

end Layout

namespace Binary

/-- A number as it appears in messages. -/
def text {format : BinaryFormat} (x : Binary format) : String :=
  String.ofList (Layout.plain.number x)

/-- A number as it appears in error texts about options. -/
def literal {format : BinaryFormat} (x : Binary format) : String :=
  String.ofList (Layout.literal.number x)

end Binary

end MessageConstraints
