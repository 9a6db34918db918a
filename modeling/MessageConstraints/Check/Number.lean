import MessageConstraints.Number.Bound
import MessageConstraints.Outcome

/-!
# Number rules

The compiled form of `min`, `max` and `range`: a test on the numbers of one family, the text it
was read from, and the words for a number that fails.  A value that holds no number of the family
passes.
-/

namespace MessageConstraints

/-- A test on numbers. -/
inductive NumberTest (α : Type) where
  | min (bound : Bound α)
  | max (bound : Bound α)
  | range (interval : Interval α)
deriving Repr, DecidableEq

namespace NumberTest

variable {α : Type} [Measure α]

/-- Whether a number passes. -/
def admits : NumberTest α → α → Bool
  | min bound, x => bound.admitsAbove x
  | max bound, x => bound.admitsBelow x
  | range interval, x => interval.contains x

/-- The kind of constraint that a test is compiled from. -/
def kind {α : Type} : NumberTest α → ConstraintKind
  | min _ => .min
  | max _ => .max
  | range _ => .range

/-- The format of the words for a number that fails. -/
def format {α : Type} : NumberTest α → String
  | min bound =>
    if bound.inclusive then "\x7bfield\x7d must be greater than or equal to \x7bmin\x7d"
    else "\x7bfield\x7d must be greater than \x7bmin\x7d"
  | max bound =>
    if bound.inclusive then "\x7bfield\x7d must be less than or equal to \x7bmax\x7d"
    else "\x7bfield\x7d must be less than \x7bmax\x7d"
  | range _ => "\x7bfield\x7d must be in range \x7brange\x7d"

end NumberTest

/-- A test with the text it was read from and the words that replace its own. -/
structure NumberRule (α : Type) where
  test : NumberTest α
  text : String
  message : Option String
deriving Repr, DecidableEq

namespace NumberRule

variable {α : Type} [Measure α]

/-- The bound of a threshold. -/
def readBound (field : String) (rule : BoundRule) : Except CompileError (Bound α) :=
  let trimmed := Text.trim rule.value
  match Measure.read? trimmed.toList with
  | some value => .ok ⟨value, !rule.exclusive⟩
  | none => .error (.invalidThreshold field trimmed)

/-- The rule of a lower threshold. -/
def ofMin (field : String) (rule : BoundRule) : Except CompileError (NumberRule α) :=
  (readBound field rule).map fun bound => ⟨.min bound, Text.trim rule.value, rule.message⟩

/-- The rule of an upper threshold. -/
def ofMax (field : String) (rule : BoundRule) : Except CompileError (NumberRule α) :=
  (readBound field rule).map fun bound => ⟨.max bound, Text.trim rule.value, rule.message⟩

/-- The rule of a range. -/
def ofRange (field source : String) : Except CompileError (NumberRule α) :=
  match Interval.read source with
  | .ok interval => .ok ⟨.range interval, Text.trim source, none⟩
  | .error cause => .error (.malformedRange field source cause)

/-- The words for a value that fails. -/
def template (rule : NumberRule α) (field : String) (value : Value) : Template :=
  Template.ofFormat (rule.message.getD rule.test.format)
    |>.withParam "field" field
    |>.withParam rule.test.kind.optionName rule.text
    |>.withParam "value" value.text

/-- What a value comes to. -/
def check (rule : NumberRule α) (field : String) (value : Value) : Outcome :=
  match Measure.ofValue? value with
  | none => .pass
  | some x =>
    if rule.test.admits x then .pass
    else .single ⟨"", .root, rule.test.kind, rule.template field value⟩

end NumberRule

end MessageConstraints
