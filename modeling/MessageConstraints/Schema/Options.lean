import MessageConstraints.Constraint.Registry
import MessageConstraints.Constraint.Set
import MessageConstraints.Descriptor.Basic
import MessageConstraints.Failure
import MessageConstraints.Schema.Literal

/-!
# Constraints declared as options

The constraints that the options of a declaration stand for.  An option's value is either the
short form, a truth value or a text, or a message with the full payload, whose fields are found by
name, so that any message type with fitting names will do.
-/

namespace MessageConstraints

/-- The value of an option, with the type of its payload if it is a message of a known type. -/
structure OptionValue where
  value : Value
  payloadType : Option MessageType

namespace OptionValue

/-- The value of an option together with what a pool says about its type. -/
def ofPool (pool : Pool) (value : Value) : OptionValue :=
  ⟨value, value.asMessage?.bind fun message => pool.find? message.typeName⟩

/-- The payload, if the value is a message. -/
def payload? (option : OptionValue) : Option Message :=
  option.value.asMessage?

/-- What a named field of the payload holds. -/
def field? (option : OptionValue) (name : String) : Option Value := do
  let payload ← option.payload?
  let type ← option.payloadType
  let field ← type.field? name
  some (payload.get field)

/-- A text in the payload, if it is there and not empty. -/
def textField? (option : OptionValue) (name : String) : Option String :=
  match option.field? name with
  | some (.string s) => if s.isEmpty then none else some s
  | _ => none

/-- A truth value in the payload. -/
def boolField? (option : OptionValue) (name : String) : Option Bool :=
  match option.field? name with
  | some (.bool b) => some b
  | _ => none

/-- The truth value that an option stands for, its own or that of a field of its payload. -/
def flag (option : OptionValue) (name : String) : Except OptionError Bool :=
  match option.value with
  | .bool b => .ok b
  | .message .. =>
    match option.boolField? name with
    | some b => .ok b
    | none => .error (.boolFieldMissing name)
  | value => .error (.unexpected "bool" value.literal)

/-- The text that an option stands for, its own or that of a field of its payload. -/
def text (option : OptionValue) (name : String) : Except OptionError String :=
  match option.value with
  | .string s => if s.isEmpty then .error (.textEmpty name) else .ok s
  | .message .. =>
    match option.textField? name with
    | some s => .ok s
    | none => .error (.textFieldEmpty name)
  | value => .error (.unexpected "string" value.literal)

/-- The threshold that an option stands for. -/
def bound (option : OptionValue) : Except OptionError BoundRule :=
  match option.payload? with
  | some _ =>
    .ok ⟨(option.textField? "value").getD "", (option.boolField? "exclusive").getD false,
      option.textField? "message"⟩
  | none => (option.text "value").map fun value => ⟨value, false, none⟩

/-- The pattern that an option stands for. -/
def pattern (option : OptionValue) : Except OptionError PatternRule :=
  (option.text "regex").map fun regex =>
    ⟨regex, (option.textField? "flags").getD "", option.textField? "message"⟩

/-- The dependency that an option stands for. -/
def dependency (option : OptionValue) : Except OptionError DependencyRule :=
  match option.payload? with
  | some _ => .ok ⟨(option.textField? "with").getD "", option.textField? "message"⟩
  | none => (option.text "with").map fun partner => ⟨partner, none⟩

/-- The choice that an option stands for. -/
def choice (option : OptionValue) : Except OptionError ChoiceRule :=
  match option.payload? with
  | some _ => .ok ⟨(option.boolField? "required").getD false, option.textField? "message"⟩
  | none => (option.flag "required").map fun required => ⟨required, none⟩

/-- The constraint of a kind that an option stands for. -/
def constraint (kind : ConstraintKind) (option : OptionValue) : Except OptionError Constraint :=
  match kind with
  | .required => (option.flag "required").map .required
  | .distinct => (option.flag "distinct").map .distinct
  | .recurse => (option.flag "recurse").map .recurse
  | .range => (option.text "range").map .range
  | .combination => (option.text "fields").map .combination
  | .pattern => option.pattern.map .pattern
  | .min => option.bound.map .min
  | .max => option.bound.map .max
  | .dependency => option.dependency.map .dependency
  | .choice => option.choice.map .choice

end OptionValue

namespace OptionSetting

/-- The constraint that an option on an element stands for; none if the registry does not know the
option. -/
def constraint? (registry : Registry) (pool : Pool) (target : Target) (owner : String)
    (setting : OptionSetting) : Except CompileError (Option Constraint) :=
  match registry.lookup setting.name with
  | none => .ok none
  | some .unsupported => .error (.stateful owner setting.name)
  | some (.supported kind) =>
    if kind.target = target then
      match (OptionValue.ofPool pool setting.value).constraint kind with
      | .ok constraint => .ok (some constraint)
      | .error cause => .error (.invalidOption owner setting.name cause)
    else .error (.misdeclared owner setting.name kind target)

end OptionSetting

namespace ConstraintSet

/-- Adds the constraints that some options stand for. -/
def addOptions (registry : Registry) (pool : Pool) (target : Target) (owner : String)
    (set : ConstraintSet) : List OptionSetting → Except CompileError ConstraintSet
  | [] => .ok set
  | setting :: rest =>
    match setting.constraint? registry pool target owner with
    | .error cause => .error cause
    | .ok none => addOptions registry pool target owner set rest
    | .ok (some constraint) =>
      addOptions registry pool target owner (set.insert constraint) rest

/-- The constraints declared by the options of an element, which come by ascending number. -/
def ofOptions (registry : Registry) (pool : Pool) (target : Target) (owner : String)
    (options : List OptionSetting) : Except CompileError ConstraintSet :=
  addOptions registry pool target owner .empty options

end ConstraintSet

end MessageConstraints
