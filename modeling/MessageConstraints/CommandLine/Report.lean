import MessageConstraints.CommandLine.Arguments
import MessageConstraints.Violation

/-!
# Reports

Violations as the command writes them: as numbered lines, or as a JSON array of objects whose
members are sorted by name.
-/

namespace MessageConstraints

namespace CommandLine

/-- Texts with commas between them. -/
def commaSeparated (parts : List String) : String :=
  ",".intercalate parts

/-- A JSON object of members whose values are already written. -/
def jsonObject (members : List (String × String)) : String :=
  "\x7b" ++ commaSeparated (members.map fun (name, value) => Text.quote name ++ ":" ++ value)
    ++ "\x7d"

/-- A violation as a JSON object. -/
def violationJson (v : Violation) : String :=
  jsonObject [
    ("field_path", Text.quote v.path.display),
    ("message", Text.quote v.text),
    ("message_type", Text.quote v.messageType),
    ("params", jsonObject (v.template.params.sorted.map fun (name, value) =>
      (name, Text.quote value))),
    ("rule_id", Text.quote v.rule)]

/-- Violations as numbered lines. -/
def violationLines (vs : List Violation) : String :=
  "\n".intercalate (vs.zipIdx.map fun (v, index) => toString (index + 1) ++ ". " ++ v.display)

/-- Violations in a format. -/
def report : OutputFormat → List Violation → String
  | .text, vs => violationLines vs
  | .json, vs => "[" ++ commaSeparated (vs.map violationJson) ++ "]"

end CommandLine

end MessageConstraints
