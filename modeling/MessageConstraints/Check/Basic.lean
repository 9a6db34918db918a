import MessageConstraints.Check.Number
import MessageConstraints.Combination
import MessageConstraints.Descriptor.Basic
import MessageConstraints.Pattern

/-!
# Checks

The compiled form of a constraint.  A check looks at one message and says what is broken in it;
a check of nested messages is told what each of them comes to.  Rules on values are applied to
every element of a list, except the rule on duplicates, which is one on the list.
-/

namespace MessageConstraints

/-- A number rule in the family of its field. -/
inductive NumberCheck where
  | signed (rule : NumberRule Int)
  | unsigned (rule : NumberRule Nat)
  | single (rule : NumberRule (Binary .single))
  | double (rule : NumberRule (Binary .double))

namespace NumberCheck

/-- What a value comes to. -/
def check (field : String) (value : Value) : NumberCheck → Outcome
  | signed rule => rule.check field value
  | unsigned rule => rule.check field value
  | single rule => rule.check field value
  | double rule => rule.check field value

end NumberCheck

/-- A compiled constraint. -/
inductive Check where
  | required (field : Field)
  | pattern (field : Field) (regex : Pattern) (message : Option String)
  | number (field : Field) (rule : NumberCheck)
  | distinct (field : Field)
  | recurse (field : Field) (nested : String)
  | dependency (field partner : Field) (message : Option String)
  | choice (oneof : Oneof) (message : Option String)
  | combination (source : String) (expression : Combination) (fields : List Field)

namespace Check

/-- The message type whose constraints have to be compiled for a check. -/
def nested? : Check → Option String
  | recurse _ nested => some nested
  | _ => none

/-! ## Values -/

/-- What a string comes to under a pattern: the empty one passes, any other has to match. -/
def patternOutcome (field : String) (regex : Pattern) (message : Option String) :
    Value → Outcome
  | .string s =>
    if s.isEmpty || regex.isFoundIn s then .pass
    else
      .single ⟨"", .root, .pattern,
        Template.ofFormat (message.getD "\x7bfield\x7d must match pattern \x7bpattern\x7d")
          |>.withParam "field" field
          |>.withParam "pattern" regex.source
          |>.withParam "value" s⟩
  | _ => .pass

/-- The elements of a list that come again, with their positions and those at which they were first
seen.  The list is gone through from a position on, with a table of the first positions of what was
seen before. -/
def findRepeats (reporting : Reporting) (seen : List (Value.Identity × Nat)) (index : Nat) :
    List Value → List (Value × Nat × Nat)
  | [] => []
  | item :: rest =>
    match item.identity? with
    | none => findRepeats reporting seen (index + 1) rest
    | some identity =>
      match seen.lookup identity with
      | none => findRepeats reporting ((identity, index) :: seen) (index + 1) rest
      | some first =>
        match reporting with
        | .collect => (item, index, first) :: findRepeats reporting seen (index + 1) rest
        | .failFast => [(item, index, first)]

/-- The violation for an element that duplicates an earlier one. -/
def duplicateViolation (field : String) : Value × Nat × Nat → Violation
  | (item, index, first) =>
    ⟨"", [.index index], .distinct,
      Template.ofFormat ("\x7bfield\x7d has duplicate value \x7bvalue\x7d at index "
          ++ "\x7bduplicate_index\x7d, first seen at index \x7bfirst_index\x7d")
        |>.withParam "field" field
        |>.withParam "value" item.text
        |>.withParam "first_index" (toString first)
        |>.withParam "duplicate_index" (toString index)⟩

/-- What a list comes to when its elements have to be distinct. -/
def distinctOutcome (reporting : Reporting) (field : String) : Value → Outcome
  | .list items => .ofList ((findRepeats reporting [] 0 items).map (duplicateViolation field))
  | _ => .pass

/-- What a value comes to under a rule on single values: a list element by element. -/
def eachOutcome (reporting : Reporting) (rule : Value → Outcome) : Value → Outcome
  | .list items =>
    Outcome.gather reporting
      (fun (item, index) => (rule item).map (.below [.index index])) items.zipIdx
  | value => rule value

/-! ## Nested messages -/

/-- The messages that a field holds, with the steps that lead to them from the field: a single
one, the elements of a list in order, the entries of a map by key. -/
def nestedMessages (field : Field) (message : Message) : List (FieldPath × Message) :=
  match field.shape with
  | .singular =>
    match message.stored? field.number with
    | some (.message typeName fields) => [([], ⟨typeName, fields⟩)]
    | _ => []
  | .list =>
    match message.get field with
    | .list items =>
      items.zipIdx.filterMap fun (item, index) =>
        item.asMessage?.map fun nested => ([.index index], nested)
    | _ => []
  | .map _ =>
    match message.get field with
    | .map entries =>
      (entries.mergeSort fun a b => a.1.le b.1).filterMap fun (key, value) =>
        value.asMessage?.map fun nested => ([.key key.text], nested)
    | _ => []

/-- What a nested message comes to, seen from the message around it: its violations follow one
that says that the nested message is broken. -/
def compose (field : String) (steps : FieldPath) : Outcome → Outcome
  | .pass => .pass
  | .violations vs =>
    let located := .field field :: steps
    let parent : Violation := ⟨"", located, .recurse,
      Template.ofFormat "Nested message validation failed" |>.withParam "field" field⟩
    .violations (parent :: vs.map (.below located))
  | .failure cause => .failure cause

/-! ## Messages -/

/-- The words of a constraint on a whole element, with one or two parameters. -/
def words (message : Option String) (format : String) (params : List (String × String)) :
    Template :=
  params.foldl (fun template param => template.withParam param.1 param.2)
    (Template.ofFormat (message.getD format))

/-- A violation unless a condition holds. -/
def demand (condition : Bool) (violation : Violation) : Outcome :=
  if condition then .pass else .single violation

/-- What a message comes to under a check, given what each nested message comes to. -/
def outcome (reporting : Reporting) (visit : String → Message → Outcome) (message : Message) :
    Check → Outcome
  | required field =>
    demand (message.isSet field) ⟨"", [.field field.name], .required,
      words none "\x7bfield\x7d is required" [("field", field.name)]⟩
  | pattern field regex text =>
    (eachOutcome reporting (patternOutcome field.name regex text) (message.get field)).map
      (.below [.field field.name])
  | number field rule =>
    (eachOutcome reporting (rule.check field.name) (message.get field)).map
      (.below [.field field.name])
  | distinct field =>
    (distinctOutcome reporting field.name (message.get field)).map (.below [.field field.name])
  | recurse field nested =>
    Outcome.gather reporting
      (fun (steps, inner) => compose field.name steps (visit nested inner))
      (nestedMessages field message)
  | dependency field partner text =>
    demand (!message.isSet field || message.isSet partner) ⟨"", [.field field.name], .dependency,
      words text "\x7bfield\x7d requires \x7bwith\x7d to be set"
        [("field", field.name), ("with", partner.name)]⟩
  | choice oneof text =>
    demand (oneof.members.any message.holds) ⟨"", [.field oneof.name], .choice,
      words text "\x7boneof\x7d requires one of its fields to be set" [("oneof", oneof.name)]⟩
  | combination source expression fields =>
    let isSet := fun name => (fields.find? (·.name = name)).any message.isSet
    demand (expression.holds isSet) ⟨"", .root, .combination,
      words none "message must satisfy required field combination \x7bfields\x7d"
        [("fields", source)]⟩

end Check

end MessageConstraints
