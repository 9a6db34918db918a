import Mathlib.Tactic.Common
import MessageConstraints.Proofs.Store

/-!
# Broken constraints

What it means that a message breaks a constraint at a place, without checks, outcomes or an order
of evaluation.  A constraint on a field, a oneof or a message is broken by the values of the message
alone (`FieldSchema.Breaks`, `OneofSchema.Breaks`, `MessageSchema.Breaks`); one that asks for
recursion is broken by a nested message in which something is broken (`Sources.Breaks`).  The places
of a whole message are found by going down fields that ask for recursion (`Sources.Leads`).

The type of a nested message is the one that its field declares.
-/

namespace MessageConstraints

/-! ## Places -/

/-- The single values of a field with their places: the elements if it holds a list, and otherwise
what it holds, be it stored or the default. -/
inductive Message.ValueAt (message : Message) (field : Field) : FieldPath → Value → Prop
  | whole : (∀ items, message.get field ≠ .list items) →
      ValueAt message field [.field field.name] (message.get field)
  | element {items : List Value} {index : Nat} {item : Value} :
      message.get field = .list items → items[index]? = some item →
      ValueAt message field [.field field.name, .index index] item

/-- The nested messages of a field with their places: one that is stored, the elements of a list,
the values of a map by key. -/
inductive Field.Nests (field : Field) (message : Message) : FieldPath → Message → Prop
  | single {typeName : String} {fields : List (Nat × Value)} :
      field.shape = .singular → message.stored? field.number = some (.message typeName fields) →
      Nests field message [.field field.name] ⟨typeName, fields⟩
  | element {items : List Value} {index : Nat} {typeName : String}
      {fields : List (Nat × Value)} :
      field.shape = .list → message.get field = .list items →
      items[index]? = some (.message typeName fields) →
      Nests field message [.field field.name, .index index] ⟨typeName, fields⟩
  | entry {type : ScalarType} {entries : List (MapKey × Value)} {key : MapKey}
      {typeName : String} {fields : List (Nat × Value)} :
      field.shape = .map type → message.get field = .map entries →
      (key, .message typeName fields) ∈ entries →
      Nests field message [.field field.name, .key key.text] ⟨typeName, fields⟩

/-- The place of a nested message begins with its field. -/
theorem Field.Nests.place_eq {field : Field} {message nested : Message} {place : FieldPath}
    (h : field.Nests message place nested) : ∃ steps, place = .field field.name :: steps := by
  cases h <;> exact ⟨_, rfl⟩

/-! ## Numbers out of bounds -/

/-- The numbers of a family. -/
def NumberFamily.Number : NumberFamily → Type
  | .signed => Int
  | .unsigned => Nat
  | .single => Binary .single
  | .double => Binary .double

instance (family : NumberFamily) : Measure family.Number :=
  match family with
  | .signed => inferInstanceAs (Measure Int)
  | .unsigned => inferInstanceAs (Measure Nat)
  | .single => inferInstanceAs (Measure (Binary .single))
  | .double => inferInstanceAs (Measure (Binary .double))

/-- A constraint sets a bound, and a number is on the wrong side of it. -/
def Constraint.Excludes {α : Type} [Measure α] (field : String) (x : α) : Constraint → Prop
  | .min rule => ∃ bound : Bound α,
      NumberRule.readBound field rule = .ok bound ∧ bound.admitsAbove x = false
  | .max rule => ∃ bound : Bound α,
      NumberRule.readBound field rule = .ok bound ∧ bound.admitsBelow x = false
  | .range source => ∃ interval : Interval α,
      Interval.read source = .ok interval ∧ interval.contains x = false
  | _ => False

/-! ## Constraints on the values of a message -/

/-- The pattern that a rule stands for. -/
def PatternRule.Reads (rule : PatternRule) (regex : Pattern) : Prop :=
  ∃ mode, Pattern.modeOf .default rule.flags.toList = .ok mode ∧
    Pattern.compile? mode rule.regex = some regex

/-- A rule stands for one pattern. -/
theorem PatternRule.Reads.unique {rule : PatternRule} {regex regex' : Pattern}
    (h : rule.Reads regex) (h' : rule.Reads regex') : regex = regex' := by
  obtain ⟨mode, hmode, hregex⟩ := h
  obtain ⟨mode', hmode', hregex'⟩ := h'
  obtain rfl : mode = mode' := Except.ok.inj (hmode.symm.trans hmode')
  exact Option.some.inj (hregex.symm.trans hregex')

namespace FieldSchema

/-- A value is no match for a pattern: a text in which the pattern is not found.  The empty text
matches everything. -/
def Mismatches (rule : PatternRule) (value : Value) : Prop :=
  ∃ s regex, value = .string s ∧ s ≠ "" ∧ rule.Reads regex ∧ regex.isFoundIn s = false

/-- A value is a number that a constraint excludes, read in the family of the field. -/
def OutOfBounds (schema : FieldSchema) (constraint : Constraint) (value : Value) : Prop :=
  ∃ family, schema.numberFamily? = some family ∧
    ∃ x : family.Number, Measure.ofValue? value = some x ∧ constraint.Excludes schema.name x

/-- A message breaks a constraint on one of its fields at a place. -/
def Breaks (schema : FieldSchema) (owner : MessageSchema) (message : Message) :
    Constraint → FieldPath → Prop
  | .required on, place =>
    on = true ∧ place = [.field schema.name] ∧ message.isSet schema.field = false
  | .pattern rule, place =>
    ∃ value, message.ValueAt schema.field place value ∧ Mismatches rule value
  | .min rule, place =>
    ∃ value, message.ValueAt schema.field place value ∧ schema.OutOfBounds (.min rule) value
  | .max rule, place =>
    ∃ value, message.ValueAt schema.field place value ∧ schema.OutOfBounds (.max rule) value
  | .range source, place =>
    ∃ value, message.ValueAt schema.field place value ∧ schema.OutOfBounds (.range source) value
  | .distinct on, place => on = true ∧ ∃ items first index earlier item,
    message.get schema.field = .list items ∧ items[first]? = some earlier ∧
      items[index]? = some item ∧ first < index ∧ earlier.duplicates item = true ∧
      place = [.field schema.name, .index index]
  | .dependency rule, place => place = [.field schema.name] ∧ message.isSet schema.field = true ∧
    ∃ partner, owner.field? rule.partner = some partner ∧ message.isSet partner.field = false
  | _, _ => False

/-- Only constraints on fields are broken by fields. -/
theorem Breaks.target_eq {schema : FieldSchema} {owner : MessageSchema} {message : Message}
    {constraint : Constraint} {place : FieldPath}
    (h : schema.Breaks owner message constraint place) : constraint.kind.target = .field := by
  cases constraint <;> first | rfl | exact h.elim

end FieldSchema

/-- A message breaks a constraint on one of its oneofs at a place. -/
def OneofSchema.Breaks (schema : OneofSchema) (message : Message) : Constraint → FieldPath → Prop
  | .choice rule, place => rule.required = true ∧ place = [.field schema.oneof.name] ∧
    ∀ number ∈ schema.oneof.members, message.holds number = false
  | _, _ => False

theorem OneofSchema.Breaks.target_eq {schema : OneofSchema} {message : Message}
    {constraint : Constraint} {place : FieldPath} (h : schema.Breaks message constraint place) :
    constraint.kind.target = .oneof := by
  cases constraint <;> first | rfl | exact h.elim

namespace MessageSchema

/-- Whether the field with a name is set in a message. -/
def isSet (schema : MessageSchema) (message : Message) (name : String) : Bool :=
  (schema.field? name).any fun field => message.isSet field.field

/-- A message breaks a constraint on it as a whole at a place. -/
def BreaksWhole (schema : MessageSchema) (message : Message) : Constraint → FieldPath → Prop
  | .combination source, place => place = [] ∧ ∃ expression,
    Combination.parse? source = some expression ∧
      expression.holds (schema.isSet message) = false
  | _, _ => False

theorem BreaksWhole.target_eq {schema : MessageSchema} {message : Message}
    {constraint : Constraint} {place : FieldPath}
    (h : schema.BreaksWhole message constraint place) : constraint.kind.target = .message := by
  cases constraint <;> first | rfl | exact h.elim

/-- A message breaks one of the constraints of its schema at a place, a constraint on nested
messages apart. -/
inductive Breaks (schema : MessageSchema) (message : Message) :
    FieldPath → ConstraintKind → Prop
  | field {field : FieldSchema} {constraint : Constraint} {place : FieldPath} :
      field ∈ schema.fields → field.constraints.get? constraint.kind = some constraint →
      field.Breaks schema message constraint place → Breaks schema message place constraint.kind
  | oneof {oneof : OneofSchema} {constraint : Constraint} {place : FieldPath} :
      oneof ∈ schema.oneofs → oneof.constraints.get? constraint.kind = some constraint →
      oneof.Breaks message constraint place → Breaks schema message place constraint.kind
  | message {constraint : Constraint} {place : FieldPath} :
      schema.constraints.get? constraint.kind = some constraint →
      schema.BreaksWhole message constraint place → Breaks schema message place constraint.kind

end MessageSchema

/-- What is broken in a nested message at a place, seen from the message around it: that the nested
message is broken, and what is broken inside. -/
def SeenFrom (place : FieldPath) (broken : FieldPath → ConstraintKind → Prop) (path : FieldPath)
    (kind : ConstraintKind) : Prop :=
  (path = place ∧ kind = .recurse ∧ ∃ innerPath innerKind, broken innerPath innerKind) ∨
    ∃ innerPath, path = place ++ innerPath ∧ broken innerPath kind

/-! ## Nested messages -/

namespace Sources

/-- A field of a type asks for recursion, and holds a nested message at a place. -/
def Descends (sources : Sources) (pool : Nat) (typeName : String) (message : Message)
    (place : FieldPath) (nestedType : String) (nested : Message) : Prop :=
  ∃ schema field, sources.schemaAt pool typeName = .ok schema ∧ field ∈ schema.fields ∧
    field.constraints.get? .recurse = some (.recurse true) ∧
    field.messageType? = some nestedType ∧ field.field.Nests message place nested

/-- A path that leads, through a number of fields that ask for recursion, to a nested message. -/
inductive Leads (sources : Sources) (pool : Nat) :
    Nat → String → Message → FieldPath → String → Message → Prop
  | here {typeName : String} {message : Message} :
      Leads sources pool 0 typeName message [] typeName message
  | inwards {levels : Nat} {typeName nestedType innerType : String}
      {message nested inner : Message} {place path : FieldPath} :
      sources.Descends pool typeName message place nestedType nested →
      Leads sources pool levels nestedType nested path innerType inner →
      Leads sources pool (levels + 1) typeName message (place ++ path) innerType inner

/-- A message itself breaks a constraint on its type at a place.  The constraint on nested messages
is broken by one in which anything is. -/
inductive Breaks (sources : Sources) (pool : Nat) :
    String → Message → FieldPath → ConstraintKind → Prop
  | own {typeName : String} {message : Message} {schema : MessageSchema} {place : FieldPath}
      {kind : ConstraintKind} :
      sources.schemaAt pool typeName = .ok schema → schema.Breaks message place kind →
      Breaks sources pool typeName message place kind
  | nested {levels : Nat} {typeName nestedType innerType : String}
      {message nested inner : Message} {place path innerPlace : FieldPath}
      {kind : ConstraintKind} :
      sources.Descends pool typeName message place nestedType nested →
      sources.Leads pool levels nestedType nested path innerType inner →
      Breaks sources pool innerType inner innerPlace kind →
      Breaks sources pool typeName message place .recurse

/-- Something is broken in a message: a path leads to it, and a nested message there, or the message
itself, breaks a constraint. -/
def Broken (sources : Sources) (pool : Nat) (typeName : String) (message : Message)
    (path : FieldPath) (kind : ConstraintKind) : Prop :=
  ∃ levels outer place innerType inner, path = outer ++ place ∧
    sources.Leads pool levels typeName message outer innerType inner ∧
    sources.Breaks pool innerType inner place kind

variable {sources : Sources} {pool : Nat} {typeName nestedType : String}
  {message nested : Message} {path place : FieldPath} {kind : ConstraintKind}

/-- What a message itself breaks is broken in it. -/
theorem Breaks.broken (h : sources.Breaks pool typeName message path kind) :
    sources.Broken pool typeName message path kind :=
  ⟨0, [], path, typeName, message, rfl, .here, h⟩

/-- If anything is broken in a nested message, the message is broken at its place. -/
theorem Broken.outside (h : sources.Broken pool nestedType nested path kind)
    (hdescends : sources.Descends pool typeName message place nestedType nested) :
    sources.Broken pool typeName message place .recurse := by
  obtain ⟨levels, outer, innerPlace, innerType, inner, -, hleads, hbreaks⟩ := h
  have hnested : sources.Breaks pool typeName message place .recurse :=
    .nested hdescends hleads hbreaks
  exact hnested.broken

/-- What is broken in a nested message is broken in the message. -/
theorem Broken.inwards (h : sources.Broken pool nestedType nested path kind)
    (hdescends : sources.Descends pool typeName message place nestedType nested) :
    sources.Broken pool typeName message (place ++ path) kind := by
  obtain ⟨levels, outer, innerPlace, innerType, inner, rfl, hleads, hbreaks⟩ := h
  have hfurther : sources.Leads pool (levels + 1) typeName message (place ++ outer) innerType
      inner := .inwards hdescends hleads
  exact ⟨_, _, innerPlace, _, _, (List.append_assoc ..).symm, hfurther, hbreaks⟩

/-- What is broken in a message is broken by its own values, or is seen from it in a nested
message. -/
theorem broken_iff :
    sources.Broken pool typeName message path kind ↔
      (∃ schema, sources.schemaAt pool typeName = .ok schema ∧
        schema.Breaks message path kind) ∨
      ∃ place nestedType nested,
        sources.Descends pool typeName message place nestedType nested ∧
        SeenFrom place (sources.Broken pool nestedType nested) path kind := by
  constructor
  · rintro ⟨levels, outer, place, innerType, inner, rfl, hleads, hbreaks⟩
    cases hleads with
    | here =>
      cases hbreaks with
      | own hschema hown => exact Or.inl ⟨_, hschema, hown⟩
      | nested hdescends hleads hinner =>
        have hbroken : ∃ innerPath innerKind, sources.Broken pool _ _ innerPath innerKind :=
          ⟨_, _, _, _, _, _, _, rfl, hleads, hinner⟩
        exact Or.inr ⟨place, _, _, hdescends, Or.inl ⟨rfl, rfl, hbroken⟩⟩
    | inwards hdescends hleads =>
      have hbroken : sources.Broken pool _ _ (_ ++ place) kind :=
        ⟨_, _, _, _, _, rfl, hleads, hbreaks⟩
      exact Or.inr ⟨_, _, _, hdescends, Or.inr ⟨_, List.append_assoc .., hbroken⟩⟩
  · rintro (⟨schema, hschema, hown⟩ | ⟨place, nestedType, nested, hdescends, hseen⟩)
    · have hbreaks : sources.Breaks pool typeName message path kind := .own hschema hown
      exact hbreaks.broken
    · rcases hseen with ⟨rfl, rfl, _, _, hbroken⟩ | ⟨_, rfl, hbroken⟩
      · exact hbroken.outside hdescends
      · exact hbroken.inwards hdescends

end Sources

end MessageConstraints
