import MessageConstraints.Check.Basic
import MessageConstraints.Schema.Basic

/-!
# Compiling schemas

From a schema to its checks.  Constraints are compiled kind by kind in the order of evaluation,
and within a kind field by field or oneof by oneof, up to the first that is inadmissible.  The
types of nested messages met on the way have to be compiled as well, even when a later constraint
is inadmissible.
-/

namespace MessageConstraints

/-- The families that thresholds are read in. -/
inductive NumberFamily where
  | signed
  | unsigned
  | single
  | double
deriving Repr, DecidableEq

namespace FieldSchema

/-- Whether the field holds single values or a list of them, and no map. -/
def isValueField (schema : FieldSchema) : Bool :=
  match schema.kind with
  | .scalar | .list => true
  | _ => false

/-- The family that the field's thresholds are read in, if its values are numbers. -/
def numberFamily? (schema : FieldSchema) : Option NumberFamily :=
  if !schema.isValueField then none
  else
    match schema.field.type with
    | .scalar .float => some .single
    | .scalar type =>
      match type.family with
      | .signed => some .signed
      | .unsigned => some .unsigned
      | .float => some .double
      | _ => none
    | _ => none

/-- The error for a field that a kind of constraint cannot be compiled for. -/
def unfit (schema : FieldSchema) (kind : ConstraintKind) (requirement : Requirement) :
    CompileError :=
  .unfitField schema.field.fullName kind requirement

/-- The check of a pattern. -/
def compilePattern (schema : FieldSchema) (rule : PatternRule) : Except CompileError Check :=
  if !schema.isValueField || schema.scalar? ≠ some .string then
    .error (schema.unfit .pattern .stringField)
  else if rule.regex.isEmpty then .error (.emptyPattern schema.name)
  else
    match Pattern.modeOf .default rule.flags.toList with
    | .error modifier => .error (.unknownModifier modifier rule.flags)
    | .ok mode =>
      match Pattern.compile? mode rule.regex with
      | some pattern => .ok (.pattern schema.field pattern rule.message)
      | none => .error (.invalidPattern rule.regex)

/-- The check of a number rule, which is read in the field's own family. -/
def compileNumber (schema : FieldSchema) (kind : ConstraintKind)
    (read : {α : Type} → [Measure α] → Except CompileError (NumberRule α)) :
    Except CompileError Check :=
  match schema.numberFamily? with
  | some .signed => read.map fun rule => .number schema.field (.signed rule)
  | some .unsigned => read.map fun rule => .number schema.field (.unsigned rule)
  | some .single => read.map fun rule => .number schema.field (.single rule)
  | some .double => read.map fun rule => .number schema.field (.double rule)
  | none => .error (schema.unfit kind .numericField)

/-- The check of a constraint on a field; none if the constraint demands nothing. -/
def compile (schema : FieldSchema) (owner : MessageSchema) (constraint : Constraint) :
    Except CompileError (Option Check) :=
  match constraint with
  | .required false | .distinct false | .recurse false => .ok none
  | .required true => .ok (some (.required schema.field))
  | .pattern rule => (schema.compilePattern rule).map some
  | .min rule => (schema.compileNumber .min (NumberRule.ofMin schema.name rule)).map some
  | .max rule => (schema.compileNumber .max (NumberRule.ofMax schema.name rule)).map some
  | .range source => (schema.compileNumber .range (NumberRule.ofRange schema.name source)).map some
  | .distinct true =>
    if schema.kind ≠ .list || schema.messageType?.isSome then
      .error (schema.unfit .distinct .repeatedField)
    else .ok (some (.distinct schema.field))
  | .dependency rule =>
    match owner.field? rule.partner with
    | some partner => .ok (some (.dependency schema.field partner.field rule.message))
    | none => .error (.unknownPartner schema.field.fullName rule.partner)
  | .recurse true =>
    match schema.messageType? with
    | some nested => .ok (some (.recurse schema.field nested))
    | none => .error (schema.unfit .recurse .messageField)
  | .choice _ => .error (schema.unfit .choice .otherTarget)
  | .combination _ => .error (schema.unfit .combination .otherTarget)

end FieldSchema

namespace OneofSchema

/-- The check of a constraint on a oneof; none if the constraint demands nothing. -/
def compile (schema : OneofSchema) : Constraint → Except CompileError (Option Check)
  | .choice rule =>
    .ok (if rule.required then some (.choice schema.oneof rule.message) else none)
  | _ => .ok none

end OneofSchema

namespace MessageSchema

/-- The check of a field combination. -/
def compileCombination (schema : MessageSchema) (source : String) :
    Except CompileError (Option Check) :=
  match Combination.parse? source with
  | none => .error (.invalidCombination source)
  | some expression =>
    match expression.names.find? fun name => (schema.field? name).isNone with
    | some name => .error (.unknownCombinationField schema.type.fullName source name)
    | none => .ok (some (.combination source expression (schema.fields.map (·.field))))

/-- The check of a constraint on a message; none if the constraint demands nothing. -/
def compile (schema : MessageSchema) : Constraint → Except CompileError (Option Check)
  | .combination source => schema.compileCombination source
  | _ => .ok none

end MessageSchema

/-- A constraint with the element it is attached to. -/
inductive Site where
  | field (schema : FieldSchema) (constraint : Constraint)
  | oneof (schema : OneofSchema) (constraint : Constraint)
  | message (constraint : Constraint)

namespace Site

/-- The check of a constraint where it is attached. -/
def compile (owner : MessageSchema) : Site → Except CompileError (Option Check)
  | .field schema constraint => schema.compile owner constraint
  | .oneof schema constraint => schema.compile constraint
  | .message constraint => owner.compile constraint

end Site

namespace MessageSchema

/-- The constraints of one kind, with their elements. -/
def sitesOf (schema : MessageSchema) (kind : ConstraintKind) : List Site :=
  match kind.target with
  | .field =>
    schema.fields.filterMap fun field => (field.constraints.get? kind).map (Site.field field)
  | .oneof =>
    schema.oneofs.filterMap fun oneof => (oneof.constraints.get? kind).map (Site.oneof oneof)
  | .message => ((schema.constraints.get? kind).map Site.message).toList

/-- All constraints in the order in which they are compiled and evaluated. -/
def sites (schema : MessageSchema) : List Site :=
  ConstraintKind.evaluationOrder.flatMap schema.sitesOf

end MessageSchema

/-- What compiling a type comes to: the checks up to the first inadmissible constraint, and the
error that it is refused with, if there is one. -/
structure Compiled where
  checks : List Check
  error? : Option CompileError

namespace Compiled

/-- A type whose constraints cannot be compiled at all. -/
def failed (cause : CompileError) : Compiled := ⟨[], some cause⟩

/-- Compiles constraints in order. -/
def ofSites (schema : MessageSchema) : List Site → Compiled
  | [] => ⟨[], none⟩
  | site :: rest =>
    match site.compile schema with
    | .error cause => failed cause
    | .ok check =>
      let compiled := ofSites schema rest
      { compiled with checks := check.toList ++ compiled.checks }

/-- Compiles the constraints of a schema. -/
def ofSchema (schema : MessageSchema) : Compiled :=
  ofSites schema schema.sites

/-- The types of the nested messages that are checked. -/
def nested (compiled : Compiled) : List String :=
  compiled.checks.filterMap Check.nested?

/-- The checks of a type that compiles. -/
def result (compiled : Compiled) : Except CompileError (List Check) :=
  match compiled.error? with
  | some cause => .error cause
  | none => .ok compiled.checks

end Compiled

end MessageConstraints
