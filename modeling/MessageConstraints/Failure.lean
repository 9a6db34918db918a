import MessageConstraints.Constraint.Basic

/-!
# Failures

Why constraints cannot be compiled, and why a validation cannot be finished.  Each cause is a
value; its words are given in one place, by `message`.
-/

namespace MessageConstraints

/-- Why a range is malformed. -/
inductive RangeError where
  | notOpened
  | notClosed
  | noSeparator
  | notNumber (text : String)
  | inverted
deriving Repr, DecidableEq

namespace RangeError

/-- The words for a malformed range. -/
def message : RangeError → String
  | notOpened => "must start with `[` or `(`"
  | notClosed => "must end with `]` or `)`"
  | noSeparator => "missing `..` separator"
  | notNumber text => "`" ++ text ++ "` is not a number"
  | inverted => "minimum is greater than maximum"

end RangeError

/-- Why the value of an option declares no constraint. -/
inductive OptionError where
  | boolFieldMissing (field : String)
  | textEmpty (field : String)
  | textFieldEmpty (field : String)
  | unexpected (expected got : String)
deriving Repr, DecidableEq

namespace OptionError

/-- The words for an option value that declares no constraint. -/
def message : OptionError → String
  | boolFieldMissing field => "expected a bool `" ++ field ++ "` field"
  | textEmpty field => "expected a non-empty string `" ++ field ++ "` value"
  | textFieldEmpty field => "expected a non-empty string `" ++ field ++ "` field"
  | unexpected expected got => "expected a " ++ expected ++ " value, got " ++ got

end OptionError

/-- The fields that a kind of constraint can be compiled for. -/
inductive Requirement where
  | stringField
  | numericField
  | repeatedField
  | messageField
  | otherTarget
deriving Repr, DecidableEq

namespace Requirement

/-- The words for what a constraint requires. -/
def message : Requirement → String
  | stringField => "a string field"
  | numericField => "a numeric field"
  | repeatedField => "a repeated scalar or enum field"
  | messageField => "a message, repeated message or map of messages field"
  | otherTarget => "a oneof or message target"

end Requirement

/-- Why the constraints of a message type cannot be compiled. -/
inductive CompileError where
  /-- The type is not among those compiled, and compiling on demand is turned off. -/
  | notCompiled (typeName : String)
  /-- An option asks for a memory of earlier messages. -/
  | stateful (owner option : String)
  /-- An option is set on an element that its kind does not apply to. -/
  | misdeclared (owner option : String) (kind : ConstraintKind) (target : Target)
  /-- An option's value declares no constraint. -/
  | invalidOption (owner option : String) (cause : OptionError)
  /-- A rule is attached to an element that its kind does not apply to. -/
  | misattached (owner : String) (kind : ConstraintKind) (target : Target)
  | unknownField (name typeName : String)
  | unknownOneof (name typeName : String)
  /-- A constraint is attached to a field of a type that it cannot be checked for. -/
  | unfitField (field : String) (kind : ConstraintKind) (requirement : Requirement)
  | unknownPartner (field partner : String)
  | emptyPattern (field : String)
  | unknownModifier (modifier : Char) (flags : String)
  | invalidPattern (source : String)
  | invalidThreshold (field text : String)
  | malformedRange (field source : String) (cause : RangeError)
  | invalidCombination (source : String)
  | unknownCombinationField (typeName source name : String)
deriving Repr, DecidableEq

namespace CompileError

/-- A word in backquotes. -/
def ticked (word : String) : String := "`" ++ word ++ "`"

/-- The words for a cause. -/
def message : CompileError → String
  | notCompiled typeName => "no evaluator available for " ++ typeName
  | stateful owner option =>
    owner ++ ": " ++ ticked option
      ++ " is a stateful constraint and cannot be enforced by a per-message validator"
  | misdeclared owner option kind target =>
    owner ++ ": " ++ ticked option ++ " applies to a " ++ kind.target.name
      ++ " but was declared on a " ++ target.name
  | invalidOption owner option cause =>
    owner ++ ": invalid " ++ ticked option ++ " option: " ++ cause.message
  | misattached owner kind target =>
    owner ++ ": " ++ ticked kind.optionName ++ " applies to a " ++ kind.target.name
      ++ " but was attached to a " ++ target.name
  | unknownField name typeName => "rules name unknown field " ++ name ++ " in message " ++ typeName
  | unknownOneof name typeName => "rules name unknown oneof " ++ name ++ " in message " ++ typeName
  | unfitField field kind requirement =>
    field ++ ": " ++ ticked kind.optionName ++ " requires " ++ requirement.message
  | unknownPartner field partner => field ++ ": `goes` names unknown field " ++ partner
  | emptyPattern field => "field " ++ field ++ ": empty regex pattern"
  | unknownModifier modifier flags =>
    "unknown pattern modifier " ++ ticked modifier.toString ++ " in " ++ ticked flags
  | invalidPattern source => "invalid regex pattern " ++ ticked source
  | invalidThreshold field text =>
    "field " ++ field ++ ": " ++ ticked text ++ " is not a valid numeric threshold"
  | malformedRange field source cause =>
    "field " ++ field ++ ": malformed range " ++ ticked source ++ ": " ++ cause.message
  | invalidCombination source => "invalid field combination " ++ ticked source
  | unknownCombinationField typeName source name =>
    typeName ++ ": field combination " ++ ticked source ++ " names unknown field " ++ name

end CompileError

/-- Why a message can be neither accepted nor refused. -/
inductive Failure where
  /-- The constraints of the message, or of one nested in it, cannot be compiled. -/
  | compilation (cause : CompileError)
  /-- A nested message lies deeper than the limit allows. -/
  | tooDeep (limit : Nat) (typeName : String)
deriving Repr, DecidableEq

namespace Failure

/-- The words for what went wrong, without its category. -/
def cause : Failure → String
  | compilation cause => cause.message
  | tooDeep limit typeName =>
    "maximum nesting depth of " ++ toString limit ++ " exceeded while descending into " ++ typeName

/-- The words for what went wrong. -/
def message : Failure → String
  | compilation cause => "compilation error: " ++ cause.message
  | failure => "runtime error: " ++ failure.cause

end Failure

end MessageConstraints
