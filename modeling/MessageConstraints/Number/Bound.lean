import MessageConstraints.Failure
import MessageConstraints.Number.Reading
import MessageConstraints.Text.Blank
import MessageConstraints.Text.Split
import MessageConstraints.Value

/-!
# Bounds

Thresholds for numbers and the intervals between two of them, read from text and compared in the
numbers of a field's own family: 64-bit integers with or without a sign, and the two binary
formats.  A threshold is a number that compares with itself, so no bound is ever no number.
-/

namespace MessageConstraints

/-- Numbers that bounds can be set for: how a threshold is read, how numbers are compared, and
which values hold one. -/
class Measure (α : Type) where
  read? : List Char → Option α
  le : α → α → Bool
  lt : α → α → Bool
  ofValue? : Value → Option α

/-- Signed integers of at most 64 bits. -/
instance : Measure Int where
  read? cs := (signedInteger? cs).bind (signedWithin? 64)
  le a b := decide (a ≤ b)
  lt a b := decide (a < b)
  ofValue?
    | .int32 n => some n.toInt
    | .int64 n => some n.toInt
    | _ => none

/-- Unsigned integers of at most 64 bits. -/
instance : Measure Nat where
  read? cs := (unsignedInteger? cs).bind (unsignedWithin? 64)
  le a b := decide (a ≤ b)
  lt a b := decide (a < b)
  ofValue?
    | .uint32 n => some n.toNat
    | .uint64 n => some n.toNat
    | _ => none

/-- Numbers of `float` fields. -/
instance : Measure (Binary .single) where
  read? cs := (Binary.ofChars? .single cs).filter fun x => !x.isNaN
  le := Binary.le
  lt := Binary.lt
  ofValue?
    | .float x => some x
    | _ => none

/-- Numbers of `double` fields. -/
instance : Measure (Binary .double) where
  read? cs := (Binary.ofChars? .double cs).filter fun x => !x.isNaN
  le := Binary.le
  lt := Binary.lt
  ofValue?
    | .double x => some x
    | _ => none

/-- A threshold, which itself belongs to the allowed side if it is inclusive. -/
structure Bound (α : Type) where
  value : α
  inclusive : Bool
deriving Repr, DecidableEq

namespace Bound

variable {α : Type} [Measure α]

/-- Whether a number is on the upper side of a bound. -/
def admitsAbove (bound : Bound α) (x : α) : Bool :=
  if bound.inclusive then Measure.le bound.value x else Measure.lt bound.value x

/-- Whether a number is on the lower side of a bound. -/
def admitsBelow (bound : Bound α) (x : α) : Bool :=
  if bound.inclusive then Measure.le x bound.value else Measure.lt x bound.value

end Bound

/-- The numbers between two bounds. -/
structure Interval (α : Type) where
  low : Bound α
  high : Bound α
deriving Repr, DecidableEq

namespace Interval

variable {α : Type} [Measure α]

/-- Whether a number lies between the bounds. -/
def contains (interval : Interval α) (x : α) : Bool :=
  interval.low.admitsAbove x && interval.high.admitsBelow x

/-- Whether the first bracket includes its bound. -/
def openBracket? : Char → Option Bool
  | '[' => some true
  | '(' => some false
  | _ => none

/-- Whether the last bracket includes its bound. -/
def closeBracket? : Char → Option Bool
  | ']' => some true
  | ')' => some false
  | _ => none

/-- The threshold at one end of a range. -/
def readEnd (cs : List Char) : Except RangeError α :=
  let trimmed := Text.trimChars cs
  match Measure.read? trimmed with
  | some x => .ok x
  | none => .error (.notNumber (String.ofList trimmed))

/-- An interval in brackets, a square one including its bound and a round one not. -/
def read (source : String) : Except RangeError (Interval α) := do
  let (first, rest) ← match Text.trimChars source.toList with
    | [] => throw .notOpened
    | first :: rest => pure (first, rest)
  let some lowInclusive := openBracket? first | throw .notOpened
  let some last := rest.getLast? | throw .notClosed
  let some highInclusive := closeBracket? last | throw .notClosed
  let some (before, after) := Text.splitOnce? ['.', '.'] rest.dropLast | throw .noSeparator
  let low ← readEnd before
  let high ← readEnd after
  if Measure.lt high low then throw .inverted
  pure ⟨⟨low, lowInclusive⟩, ⟨high, highInclusive⟩⟩

end Interval

end MessageConstraints
