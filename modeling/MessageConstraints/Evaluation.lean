import MessageConstraints.Store

/-!
# Evaluating compiled types

A message is put through the checks that are compiled for a type name.  The check of a nested
message does the same one level further down, as long as there are levels left; the limit on them
is what makes evaluation end, whatever the types refer to.
-/

namespace MessageConstraints

/-- Where the checks of a type are found by its name, or why there are none. -/
abbrev CheckTable := String → Except CompileError (List Check)

namespace CheckTable

/-- What a message comes to under the checks of a type name, given what each nested message comes
to. -/
def judge (table : CheckTable) (reporting : Reporting) (visit : String → Message → Outcome)
    (typeName : String) (message : Message) : Outcome :=
  match table typeName with
  | .error cause => .failure (.compilation cause)
  | .ok checks =>
    (Outcome.gather reporting (fun check => check.outcome reporting visit message) checks).map
      (.inMessage message.typeName)

/-- What a message comes to under the checks of a type name.  Nested messages may lie up to
`levels` levels below it; `limit` is the number of levels that the whole message is allowed. -/
def evaluate (table : CheckTable) (reporting : Reporting) (limit : Nat) :
    Nat → String → Message → Outcome
  | 0 => table.judge reporting fun _ nested => .failure (.tooDeep limit nested.typeName)
  | below + 1 => table.judge reporting (evaluate table reporting limit below)

end CheckTable

namespace Store

/-- What a message comes to under the checks that are compiled for a type name. -/
def evaluate (store : Store) (reporting : Reporting) (limit : Nat) (typeName : String)
    (message : Message) : Outcome :=
  CheckTable.evaluate store.checks reporting limit limit typeName message

end Store

end MessageConstraints
