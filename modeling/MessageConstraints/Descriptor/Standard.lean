import MessageConstraints.Descriptor.Declaration

/-!
# The standard options

The declarations of the package `validate`: the payload messages of the options, and the options
themselves as extensions of the options of fields, oneofs and messages.
-/

namespace MessageConstraints

namespace Declarations

variable {Setting : Type}

/-- A payload message with fields numbered from one. -/
def payload (name : String) (fields : List (String × ScalarType)) :
    MessageDeclaration Setting where
  fullName := qualifiedName "validate" name
  isEntry := false
  fields := fields.zipIdx.map fun ((field, type), index) =>
    .single (index + 1) field (.scalar type)
  oneofs := []
  options := []

/-- An option of the package. -/
def standardOption (target : Target) (name : String) (number : Nat) (type : TypeName) :
    ExtensionDeclaration :=
  ⟨qualifiedName "validate" name, target.optionsType, number, type, false⟩

/-- The declarations of the package `validate`. -/
def standard : Declarations Setting where
  messages := [
    payload "PatternRules" [("regex", .string), ("flags", .string), ("message", .string)],
    payload "BoundRules" [("value", .string), ("exclusive", .bool), ("message", .string)],
    payload "DependencyRules" [("with", .string), ("message", .string)],
    payload "ChoiceRules" [("required", .bool), ("message", .string)],
    payload "CombinationRules" [("fields", .string)]]
  enums := []
  extensions := [
    standardOption .field "required" 51001 (.scalar .bool),
    standardOption .field "pattern" 51002 (.message "validate.PatternRules"),
    standardOption .field "min" 51003 (.message "validate.BoundRules"),
    standardOption .field "max" 51004 (.message "validate.BoundRules"),
    standardOption .field "range" 51005 (.scalar .string),
    standardOption .field "distinct" 51006 (.scalar .bool),
    standardOption .field "goes" 51007 (.message "validate.DependencyRules"),
    standardOption .field "recurse" 51008 (.scalar .bool),
    standardOption .field "once" 51090 (.scalar .bool),
    standardOption .field "immutable" 51091 (.scalar .bool),
    standardOption .oneof "choice" 51101 (.message "validate.ChoiceRules"),
    standardOption .message "require" 51201 (.message "validate.CombinationRules")]

end Declarations

end MessageConstraints
