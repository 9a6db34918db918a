import MessageConstraints.Constraint.Set
import MessageConstraints.NameMap

/-!
# Rule sets

Constraints given in a program and not in a descriptor: for each message name, the constraints of
the message, of its fields and of its oneofs.  Names are not checked here; the resolution of a
schema refuses those that the message does not have.

What a rule set says does not depend on the order of its names, but which of several wrong names is
found first does.  A validator keeps its rules with the names in an order of its own (`NameOrder`),
about which nothing is known but that it is an order of these names.
-/

namespace MessageConstraints

/-- The rules for one message. -/
structure MessageRules where
  message : ConstraintSet
  fields : NameMap ConstraintSet
  oneofs : NameMap ConstraintSet

namespace MessageRules

/-- No rules. -/
def empty : MessageRules := ⟨.empty, .empty, .empty⟩

instance : Inhabited MessageRules := ⟨empty⟩

/-- Attaches constraints to a named element. -/
def attach (table : NameMap ConstraintSet) (name : String) (constraints : List Constraint) :
    NameMap ConstraintSet :=
  table.insert name (((table.find? name).getD .empty).insertAll constraints)

/-- Attaches every constraint of a table of named elements. -/
def attachAll (table other : NameMap ConstraintSet) : NameMap ConstraintSet :=
  other.entries.foldl (fun acc entry => attach acc entry.1 entry.2.toList) table

/-- The rules of both; where both have a constraint of a kind for an element, the second's. -/
def extend (rules other : MessageRules) : MessageRules where
  message := rules.message.insertAll other.message.toList
  fields := attachAll rules.fields other.fields
  oneofs := attachAll rules.oneofs other.oneofs

end MessageRules

/-- What a rule is attached to. -/
inductive RuleTarget where
  | message
  | field (name : String)
  | oneof (name : String)
deriving Repr, DecidableEq

/-- A constraint attached to an element of a named message. -/
structure Rule where
  message : String
  target : RuleTarget
  constraint : Constraint
deriving Repr, DecidableEq

/-- Rules by message name. -/
structure RuleSet where
  messages : NameMap MessageRules

namespace RuleSet

/-- No rules. -/
def empty : RuleSet := ⟨.empty⟩

instance : Inhabited RuleSet := ⟨empty⟩

/-- The rules for a message. -/
def forMessage? (rules : RuleSet) (fullName : String) : Option MessageRules :=
  rules.messages.find? fullName

/-- Changes the rules for a message, starting from none. -/
def update (rules : RuleSet) (fullName : String) (change : MessageRules → MessageRules) :
    RuleSet :=
  ⟨rules.messages.insert fullName (change ((rules.forMessage? fullName).getD .empty))⟩

/-- Attaches one rule; it replaces an earlier one of its kind on its element. -/
def attach (rules : RuleSet) (rule : Rule) : RuleSet :=
  rules.update rule.message fun entry =>
    match rule.target with
    | .message => { entry with message := entry.message.insert rule.constraint }
    | .field name =>
      { entry with fields := MessageRules.attach entry.fields name [rule.constraint] }
    | .oneof name =>
      { entry with oneofs := MessageRules.attach entry.oneofs name [rule.constraint] }

/-- The rule set that attaching the rules one after the other gives. -/
def ofList (rules : List Rule) : RuleSet :=
  rules.foldl attach empty

/-- Adds the rules of another set, which win over those that are there. -/
def extend (rules other : RuleSet) : RuleSet :=
  other.messages.entries.foldl (fun acc entry => acc.update entry.1 (·.extend entry.2)) rules

/-- Whether no rule was ever attached. -/
def isEmpty (rules : RuleSet) : Bool :=
  rules.messages.isEmpty

end RuleSet

/-! ## The order of names -/

/-- An order in which the names that rules give to the fields, or to the oneofs, of a message are
gone through.  It is not laid down by the rules: the same names may come in another order each time
that rules are put together. -/
structure NameOrder where
  arrange : String → Target → List String → List String
  perm : ∀ message target names, (arrange message target names).Perm names

namespace NameOrder

/-- The order in which the names were first written. -/
def written : NameOrder := ⟨fun _ _ names => names, fun _ _ names => .refl names⟩

instance : Inhabited NameOrder := ⟨written⟩

end NameOrder

/-- The rules for a message, with the names in some order. -/
def MessageRules.arranged (order : NameOrder) (message : String) (rules : MessageRules) :
    MessageRules :=
  { rules with
    fields := rules.fields.inOrder (order.arrange message .field rules.fields.names)
    oneofs := rules.oneofs.inOrder (order.arrange message .oneof rules.oneofs.names) }

/-- The same rules, with the names of fields and oneofs in some order. -/
def RuleSet.arranged (order : NameOrder) (rules : RuleSet) : RuleSet :=
  ⟨⟨rules.messages.entries.map fun entry => (entry.1, entry.2.arranged order entry.1)⟩⟩

end MessageConstraints
