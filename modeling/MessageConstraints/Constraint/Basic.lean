/-!
# Constraints

What can be demanded of a field, a oneof or a message, as it is declared: texts are not yet
parsed here.  Every constraint has a kind, and every kind belongs to one target and has one
option name.
-/

namespace MessageConstraints

/-- The elements that a constraint can be attached to. -/
inductive Target where
  | field
  | oneof
  | message
deriving Repr, DecidableEq

namespace Target

/-- The word for a target in messages. -/
def name : Target → String
  | field => "field"
  | oneof => "oneof"
  | message => "message"

end Target

/-- The kinds of constraint, in the order in which a set lists them. -/
inductive ConstraintKind where
  | required
  | pattern
  | min
  | max
  | range
  | distinct
  | dependency
  | recurse
  | choice
  | combination
deriving Repr, DecidableEq

namespace ConstraintKind

/-- The order in which the kinds are evaluated. -/
def evaluationOrder : List ConstraintKind :=
  [required, pattern, combination, min, max, range, distinct, recurse, dependency, choice]

/-- The place of a kind in the listing order. -/
def rank : ConstraintKind → Nat
  | required => 0
  | pattern => 1
  | min => 2
  | max => 3
  | range => 4
  | distinct => 5
  | dependency => 6
  | recurse => 7
  | choice => 8
  | combination => 9

theorem rank_injective {a b : ConstraintKind} (h : a.rank = b.rank) : a = b := by
  cases a <;> cases b <;> simp_all [rank]

/-- Every kind is evaluated. -/
theorem mem_evaluationOrder (kind : ConstraintKind) : kind ∈ evaluationOrder := by
  cases kind <;> decide

/-- The name under which a kind is declared as an option; a violation is labelled with it. -/
def optionName : ConstraintKind → String
  | required => "required"
  | pattern => "pattern"
  | min => "min"
  | max => "max"
  | range => "range"
  | distinct => "distinct"
  | dependency => "goes"
  | recurse => "recurse"
  | choice => "choice"
  | combination => "require"

/-- The kind with a given option name. -/
def ofOptionName? (name : String) : Option ConstraintKind :=
  evaluationOrder.find? fun kind => kind.optionName = name

/-- The element a kind belongs to. -/
def target : ConstraintKind → Target
  | choice => .oneof
  | combination => .message
  | _ => .field

end ConstraintKind

/-- A regular expression that a string has to match somewhere. -/
structure PatternRule where
  regex : String
  flags : String
  message : Option String
deriving Repr, DecidableEq

/-- A threshold for a number, in text. -/
structure BoundRule where
  value : String
  exclusive : Bool
  message : Option String
deriving Repr, DecidableEq

/-- A field that has to be set whenever the constrained one is. -/
structure DependencyRule where
  partner : String
  message : Option String
deriving Repr, DecidableEq

/-- Whether one of a oneof's fields has to be set. -/
structure ChoiceRule where
  required : Bool
  message : Option String
deriving Repr, DecidableEq

/-- A demand on a field, a oneof or a message. -/
inductive Constraint where
  | required (on : Bool)
  | pattern (rule : PatternRule)
  | min (rule : BoundRule)
  | max (rule : BoundRule)
  | range (text : String)
  | distinct (on : Bool)
  | dependency (rule : DependencyRule)
  | recurse (on : Bool)
  | choice (rule : ChoiceRule)
  | combination (text : String)
deriving Repr, DecidableEq

namespace Constraint

/-- The kind of a constraint. -/
def kind : Constraint → ConstraintKind
  | required _ => .required
  | pattern _ => .pattern
  | min _ => .min
  | max _ => .max
  | range _ => .range
  | distinct _ => .distinct
  | dependency _ => .dependency
  | recurse _ => .recurse
  | choice _ => .choice
  | combination _ => .combination

end Constraint

end MessageConstraints
