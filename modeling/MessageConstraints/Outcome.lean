import MessageConstraints.Failure
import MessageConstraints.Violation

/-!
# Outcomes

What a check, or a message, comes to: it passes, or some violations are found, or a failure leaves
the question open.  Outcomes are joined in order.  A failure ends everything and takes the
violations before it with it; otherwise the violations are put together, or, in fail-fast mode, the
first outcome that has any is the result.
-/

namespace MessageConstraints

/-- Whether all violations are wanted or only the first ones. -/
inductive Reporting where
  | collect
  | failFast
deriving Repr, DecidableEq

/-- What a check comes to. -/
inductive Outcome where
  /-- Nothing is broken. -/
  | pass
  | violations (vs : List Violation)
  | failure (cause : Failure)
deriving Repr, DecidableEq

namespace Outcome

variable {α : Type}

/-- A single violation. -/
def single (v : Violation) : Outcome := violations [v]

/-- Some violations, unless there are none. -/
def ofList : List Violation → Outcome
  | [] => pass
  | v :: vs => violations (v :: vs)

/-- The violations that were found, or why that cannot be told. -/
def found : Outcome → Except Failure (List Violation)
  | pass => .ok []
  | violations vs => .ok vs
  | failure cause => .error cause

/-- Changes every violation. -/
def map (f : Violation → Violation) : Outcome → Outcome
  | pass => pass
  | violations vs => violations (vs.map f)
  | failure cause => failure cause

/-- What has been found so far together with a further outcome, and whether to go on from there. -/
def merge (mode : Reporting) (sofar next : Outcome) : Bool × Outcome :=
  match next with
  | pass => (true, sofar)
  | failure cause => (false, failure cause)
  | violations ws =>
    match mode, sofar with
    | .failFast, _ => (false, violations ws)
    | .collect, violations vs => (true, violations (vs ++ ws))
    | .collect, _ => (true, violations ws)

/-- The outcomes of some things joined in order to what has been found so far; nothing is looked at
after the end. -/
def gatherFrom (mode : Reporting) (check : α → Outcome) (sofar : Outcome) : List α → Outcome
  | [] => sofar
  | a :: rest =>
    match merge mode sofar (check a) with
    | (true, sofar) => gatherFrom mode check sofar rest
    | (false, result) => result

/-- The outcomes of some things joined in order. -/
def gather (mode : Reporting) (check : α → Outcome) (things : List α) : Outcome :=
  gatherFrom mode check pass things

end Outcome

end MessageConstraints
