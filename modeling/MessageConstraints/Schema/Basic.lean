import MessageConstraints.Constraint.RuleSet
import MessageConstraints.Schema.Options

/-!
# Schemas

A message type together with the constraints on it, on its fields and on its oneofs.  Constraints
come from the options of the declarations and from a rule set; where both give a constraint of a
kind for an element, the rule set's is taken.  Names that the rule set gives and the message does
not have are refused.
-/

namespace MessageConstraints

/-- What a field's values are, as constraints tell them apart. -/
inductive ElementKind where
  | scalar (family : ScalarFamily)
  | enum
  | message (fullName : String)
deriving Repr, DecidableEq

/-- What a field is, as constraints tell fields apart. -/
inductive FieldKind where
  | scalar
  | enum
  | message
  | list
  | map
deriving Repr, DecidableEq

/-- A field with its constraints. -/
structure FieldSchema where
  field : Field
  constraints : ConstraintSet

namespace FieldSchema

/-- The name of the field. -/
def name (schema : FieldSchema) : String := schema.field.name

/-- What the field's values, elements or entries are. -/
def element (schema : FieldSchema) : ElementKind :=
  match schema.field.type with
  | .scalar type => .scalar type.family
  | .enum _ => .enum
  | .message fullName => .message fullName

/-- What the field is. -/
def kind (schema : FieldSchema) : FieldKind :=
  match schema.field.shape, schema.field.type with
  | .map _, _ => .map
  | .list, _ => .list
  | .singular, .scalar _ => .scalar
  | .singular, .enum _ => .enum
  | .singular, .message _ => .message

/-- The family of the field's values, if they are scalar. -/
def scalar? (schema : FieldSchema) : Option ScalarFamily :=
  match schema.element with
  | .scalar family => some family
  | _ => none

/-- The name of the type of the field's values, if they are messages. -/
def messageType? (schema : FieldSchema) : Option String :=
  schema.field.nested?

end FieldSchema

/-- A oneof with its constraints. -/
structure OneofSchema where
  oneof : Oneof
  constraints : ConstraintSet

/-- A message type with all its constraints. -/
structure MessageSchema where
  type : MessageType
  fields : List FieldSchema
  oneofs : List OneofSchema
  constraints : ConstraintSet

namespace ConstraintSet

/-- Puts the constraints of a rule set over those of an element. -/
def overlay (target : Target) (owner : String) (set : ConstraintSet) :
    List Constraint → Except CompileError ConstraintSet
  | [] => .ok set
  | constraint :: rest =>
    if constraint.kind.target = target then
      overlay target owner (set.insert constraint) rest
    else .error (.misattached owner constraint.kind target)

end ConstraintSet

namespace MessageSchema

/-- The field with a name. -/
def field? (schema : MessageSchema) (name : String) : Option FieldSchema :=
  schema.fields.find? fun field => field.name = name

/-- The constraints of one element: those of its options under those of the rules. -/
def resolveElement (registry : Registry) (pool : Pool) (target : Target) (owner : String)
    (options : List OptionSetting) (rules : Option ConstraintSet) :
    Except CompileError ConstraintSet := do
  let declared ← ConstraintSet.ofOptions registry pool target owner options
  declared.overlay target owner ((rules.map ConstraintSet.toList).getD [])

/-- Refuses rules for fields and oneofs that the message does not have.  Of several such names the
error tells the one that comes first in the order in which the rules have them. -/
def checkNames (type : MessageType) (rules : MessageRules) : Except CompileError Unit :=
  match rules.fields.names.find? fun name => (type.field? name).isNone with
  | some name => .error (.unknownField name type.fullName)
  | none =>
    match rules.oneofs.names.find? fun name => !type.hasOneof name with
    | some name => .error (.unknownOneof name type.fullName)
    | none => .ok ()

/-- A field with its constraints. -/
def resolveField (registry : Registry) (pool : Pool) (rules : MessageRules) (field : Field) :
    Except CompileError FieldSchema := do
  let constraints ← resolveElement registry pool .field field.fullName field.options
    (rules.fields.find? field.name)
  pure ⟨field, constraints⟩

/-- A oneof with its constraints. -/
def resolveOneof (registry : Registry) (pool : Pool) (rules : MessageRules) (oneof : Oneof) :
    Except CompileError OneofSchema := do
  let constraints ← resolveElement registry pool .oneof oneof.fullName oneof.options
    (rules.oneofs.find? oneof.name)
  pure ⟨oneof, constraints⟩

/-- The schema of a message type: first the message itself, then the names in the rules, then the
fields, then the oneofs that take constraints. -/
def resolve (registry : Registry) (rules : RuleSet) (pool : Pool) (type : MessageType) :
    Except CompileError MessageSchema := do
  let rules := (rules.forMessage? type.fullName).getD .empty
  let constraints ← resolveElement registry pool .message type.fullName type.options
    (some rules.message)
  checkNames type rules
  let fields ← type.fields.mapM (resolveField registry pool rules)
  let oneofs ← (type.oneofs.filter (!·.isSynthetic)).mapM (resolveOneof registry pool rules)
  pure ⟨type, fields, oneofs, constraints⟩

end MessageSchema

end MessageConstraints
