import MessageConstraints.CommandLine.Report
import MessageConstraints.Json.Parser
import MessageConstraints.Validator
import MessageConstraints.Value.Json

/-!
# The command line

The command reads a descriptor set and a message in JSON and writes the violations of the message.
Its exit code is 0 if there are none, 1 if there are some, and 2 if that cannot be told.  What it
reads is given to it, so that it can be run on files as well as on data at hand; it asks for the
descriptor set first and for the message only if the set has its type.
-/

namespace MessageConstraints

namespace CommandLine

/-- Why a descriptor set is not at hand. -/
inductive SetFailure where
  | unreadable
  | undecodable
deriving Repr, DecidableEq

/-- What the command reads: descriptor sets by path, and messages by path or, without one, from the
standard input. -/
structure Inputs (m : Type → Type) where
  descriptorSet : String → m (Except SetFailure Pool)
  input : Option String → m (Option (List UInt8))

/-- Why the command cannot tell whether a message has violations. -/
inductive Problem where
  | usage
  | set (path : String) (failure : SetFailure)
  | unknownMessage (name path : String)
  | unreadableInput (path : Option String)
  | undecodableInput (message : String)
  | unevaluated (failure : Failure)
deriving Repr, DecidableEq

namespace Problem

/-- The words for a problem. -/
def message : Problem → String
  | usage => "usage error"
  | set path .unreadable => "error: failed to read descriptor set " ++ path
  | set path .undecodable => "error: failed to decode descriptor set " ++ path
  | unknownMessage name path => "error: message type " ++ name ++ " not found in " ++ path
  | unreadableInput path => "error: failed to read " ++ path.getD "stdin"
  | undecodableInput message => "error: failed to decode " ++ message ++ " input"
  | unevaluated failure => "error: constraints could not be evaluated: " ++ failure.message

end Problem

/-- What the command leaves behind. -/
structure Output where
  exitCode : Nat
  stdout : String
  stderr : String
deriving Repr, DecidableEq

namespace Output

/-- The output for violations. -/
def ofViolations (format : OutputFormat) : List Violation → Output
  | [] => ⟨0, "", ""⟩
  | v :: vs => ⟨1, report format (v :: vs) ++ "\n", ""⟩

/-- The output for a problem. -/
def ofProblem (problem : Problem) : Output :=
  ⟨2, "", problem.message ++ "\n"⟩

/-- The output for a result. -/
def ofResult (format : OutputFormat) : Except Problem (List Violation) → Output
  | .ok vs => ofViolations format vs
  | .error problem => ofProblem problem

end Output

namespace Arguments

/-- The options of the validator that arguments ask for. -/
def validatorOptions (arguments : Arguments) : List ValidatorOption :=
  .registry ⟨arguments.package⟩ :: (arguments.maxDepth.map ValidatorOption.maxDepth).toList

/-- The options of the validation that arguments ask for. -/
def callOptions (arguments : Arguments) : List CallOption :=
  if arguments.failFast then [.failFast] else []

/-- The path of the input; none for the standard input, which a hyphen stands for as well. -/
def inputPath (arguments : Arguments) : Option String :=
  arguments.input.filter (· ≠ "-")

/-- The violations of a message given in JSON. -/
def check (arguments : Arguments) (pool : Pool) (type : MessageType) (input : List UInt8) :
    Except Problem (List Violation) :=
  match (Json.ofBytes? input).bind (Message.ofJson? pool type) with
  | none => .error (.undecodableInput arguments.message)
  | some message =>
    let validator := Validator.withOptions (.single pool) .written arguments.validatorOptions
    match (validator.validate 0 message arguments.callOptions).2.found with
    | .ok vs => .ok vs
    | .error failure => .error (.unevaluated failure)

/-- Carries out what arguments ask for. -/
def run {m : Type → Type} [Monad m] (inputs : Inputs m) (arguments : Arguments) :
    m (Except Problem (List Violation)) := do
  match ← inputs.descriptorSet arguments.descriptorSet with
  | .error failure => pure (.error (.set arguments.descriptorSet failure))
  | .ok pool =>
    match pool.named? arguments.message with
    | none => pure (.error (.unknownMessage arguments.message arguments.descriptorSet))
    | some type =>
      match ← inputs.input arguments.inputPath with
      | none => pure (.error (.unreadableInput arguments.inputPath))
      | some input => pure (arguments.check pool type input)

end Arguments

/-- Runs the command. -/
def run {m : Type → Type} [Monad m] (inputs : Inputs m) (texts : List String) : m Output := do
  match Arguments.ofList? texts with
  | none => pure (.ofProblem .usage)
  | some arguments =>
    let result ← arguments.run inputs
    pure (.ofResult arguments.format result)

end CommandLine

end MessageConstraints
