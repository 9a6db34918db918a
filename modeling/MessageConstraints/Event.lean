import MessageConstraints.Check.Compile

/-!
# Events

What a validator reports about its own work, beside its answers: that a message is about to be
validated, and what compiling a type came to.  An event has a level, a text that is the same for
all events of its sort, and named details.
-/

namespace MessageConstraints

/-- How much attention an event deserves. -/
inductive Level where
  | trace
  | debug
  | warn
deriving Repr, DecidableEq

namespace Level

/-- The name of a level. -/
def name : Level → String
  | trace => "TRACE"
  | debug => "DEBUG"
  | warn => "WARN"

end Level

/-- Something that a validator did. -/
inductive Event where
  /-- A message of a type is about to be validated. -/
  | validating (typeName : String)
  /-- The constraints of a type have been compiled to a number of checks. -/
  | compiled (typeName : String) (checks : Nat)
  /-- The constraints of a type cannot be compiled. -/
  | refused (typeName : String) (cause : CompileError)
deriving Repr, DecidableEq

namespace Event

/-- The level of an event. -/
def level : Event → Level
  | validating _ => .trace
  | compiled .. => .debug
  | refused .. => .warn

/-- The text of an event. -/
def message : Event → String
  | validating _ => "validating message"
  | compiled .. => "compiled message constraints"
  | refused .. => "message constraints failed to compile"

/-- The details of an event, by name. -/
def details : Event → List (String × String)
  | validating typeName => [("message_type", typeName)]
  | compiled typeName checks => [("message_type", typeName), ("evaluators", toString checks)]
  | refused typeName cause =>
    [("message_type", typeName), ("error", (Failure.compilation cause).message)]

/-- The event that announces what compiling a type came to. -/
def ofCompiled (typeName : String) (outcome : Compiled) : Event :=
  match outcome.result with
  | .ok checks => compiled typeName checks.length
  | .error cause => refused typeName cause

end Event

end MessageConstraints
