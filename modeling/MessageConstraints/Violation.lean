import MessageConstraints.Constraint.Basic
import MessageConstraints.FieldPath
import MessageConstraints.Template

/-!
# Violations

A violation says which constraint is broken, where in the message, and in which words.  It is
labelled with the option name of the constraint's kind.
-/

namespace MessageConstraints

/-- A broken constraint: the type of the message that was validated, the place, the kind of the
constraint, and the words. -/
structure Violation where
  messageType : String
  path : FieldPath
  kind : ConstraintKind
  template : Template
deriving Repr, DecidableEq

namespace Violation

/-- The label of the broken constraint. -/
def rule (v : Violation) : String := v.kind.optionName

/-- The words of a violation. -/
def text (v : Violation) : String := v.template.text

/-- A violation moved inwards: its path seen from further out. -/
def below (steps : FieldPath) (v : Violation) : Violation :=
  { v with path := steps ++ v.path }

/-- A violation as one of a message of the given type. -/
def inMessage (typeName : String) (v : Violation) : Violation :=
  { v with messageType := typeName }

/-- The line for a violation: its path, if it has one, and its words, or its label in brackets if
it has none. -/
def display (v : Violation) : String :=
  (if v.path.isEmpty then "" else v.path.display ++ ": ")
    ++ (if v.text.isEmpty then "[" ++ v.rule ++ "]" else v.text)

/-- The report on a list of violations: one on a line of its own, several as a list. -/
def report : List Violation → String
  | [] => ""
  | [v] => "validation error: " ++ v.display
  | vs => "validation errors:" ++ String.join (vs.map fun v => "\n - " ++ v.display)

end Violation

end MessageConstraints
