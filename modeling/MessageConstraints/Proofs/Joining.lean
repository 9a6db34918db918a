import Mathlib.Tactic.Common
import MessageConstraints.Outcome

/-!
# The laws of joining

Outcomes are joined by a loop that carries along what has been found so far and may end early.
`Outcome.followedBy` says what two outcomes in a row come to, without a loop; the loop is the
repeated use of it (`gather_cons`), because what has been found so far can be put in front of what
the rest finds (`gatherFrom_violations`).

What the loop comes to can therefore be read off the outcomes (`Outcome.joined`): collecting gives
the first failure, wherever it stands, and otherwise all violations in their order; failing fast
gives the first outcome that is not a pass.  And since `followedBy` is associative, a loop over some
things and then over others is a loop over all of them (`gather_append`), and loops inside a loop
come to one loop (`gather_flatten`).
-/

namespace MessageConstraints
namespace Outcome

variable {α : Type}

/-- An outcome followed by another one.  A failure is final; so are violations in fail-fast mode,
and otherwise they go with what follows. -/
def followedBy (mode : Reporting) (first second : Outcome) : Outcome :=
  match first with
  | pass => second
  | failure cause => failure cause
  | violations vs =>
    match mode, second with
    | .failFast, _ => violations vs
    | .collect, pass => violations vs
    | .collect, violations ws => violations (vs ++ ws)
    | .collect, failure cause => failure cause

theorem followedBy_assoc (mode : Reporting) (first second third : Outcome) :
    (first.followedBy mode second).followedBy mode third =
      first.followedBy mode (second.followedBy mode third) := by
  cases first with
  | pass => rfl
  | failure cause => rfl
  | violations vs =>
    cases mode with
    | failFast => rfl
    | collect => cases second <;> cases third <;> simp [followedBy]

/-- Violations that have been found so far can be put in front of what the rest of the loop
finds. -/
theorem gatherFrom_violations (check : α → Outcome) (vs : List Violation) (things : List α) :
    gatherFrom .collect check (violations vs) things =
      (violations vs).followedBy .collect (gather .collect check things) := by
  induction things generalizing vs with
  | nil => rfl
  | cons a rest ih =>
    rw [gather, gatherFrom, gatherFrom]
    cases check a with
    | pass => exact ih vs
    | failure cause => rfl
    | violations ws =>
      show gatherFrom .collect check (violations (vs ++ ws)) rest =
        (violations vs).followedBy .collect (gatherFrom .collect check (violations ws) rest)
      rw [ih (vs ++ ws), ih ws, ← followedBy_assoc]
      rfl

/-- The first outcome, followed by the others joined. -/
theorem gather_cons (mode : Reporting) (check : α → Outcome) (a : α) (rest : List α) :
    gather mode check (a :: rest) = (check a).followedBy mode (gather mode check rest) := by
  rw [gather, gatherFrom]
  cases hcheck : check a with
  | pass => rfl
  | failure cause => rfl
  | violations vs =>
    cases mode with
    | failFast => rfl
    | collect => exact gatherFrom_violations check vs rest

/-- A relation between outcomes that is kept by putting related outcomes in front holds between what
they come to. -/
theorem gather_rel {R : Outcome → Outcome → Prop} {mode mode' : Reporting}
    {check check' : α → Outcome} {things : List α} (hpass : R pass pass)
    (hfollowed : ∀ a ∈ things, ∀ rest rest', R rest rest' →
      R ((check a).followedBy mode rest) ((check' a).followedBy mode' rest')) :
    R (gather mode check things) (gather mode' check' things) := by
  induction things with
  | nil => exact hpass
  | cons a others ih =>
    rw [gather_cons, gather_cons]
    refine hfollowed a List.mem_cons_self _ _ (ih fun b hb => ?_)
    exact hfollowed b (List.mem_cons_of_mem a hb)

/-! ## Without the loop -/

/-- The violations of an outcome; a failure has none. -/
def listed : Outcome → List Violation
  | violations vs => vs
  | _ => []

/-- Why an outcome is a failure. -/
def failure? : Outcome → Option Failure
  | failure cause => some cause
  | _ => none

/-- What outcomes come to together.  When all violations are wanted, this is the first failure, if
there is one, and otherwise the violations of all outcomes, unless all of them pass.  When only the
first ones are wanted, it is the first outcome that is not a pass. -/
def joined : Reporting → List Outcome → Outcome
  | .collect, outcomes =>
    match outcomes.findSome? failure? with
    | some cause => failure cause
    | none =>
      if ∀ outcome ∈ outcomes, outcome = pass then pass else violations (outcomes.flatMap listed)
  | .failFast, outcomes => (outcomes.find? fun outcome => outcome ≠ pass).getD pass

theorem joined_of_failure {outcomes : List Outcome} {cause : Failure}
    (h : outcomes.findSome? failure? = some cause) :
    joined .collect outcomes = failure cause := by
  rw [joined, h]

theorem joined_of_no_failure {outcomes : List Outcome} (h : outcomes.findSome? failure? = none) :
    joined .collect outcomes =
      if ∀ outcome ∈ outcomes, outcome = pass then pass
      else violations (outcomes.flatMap listed) := by
  rw [joined, h]

theorem flatMap_listed_of_pass {outcomes : List Outcome}
    (h : ∀ outcome ∈ outcomes, outcome = pass) : outcomes.flatMap listed = [] := by
  refine List.flatMap_eq_nil_iff.mpr fun outcome hmem => ?_
  rw [h outcome hmem]
  rfl

/-- Collected violations go in front of what the other outcomes come to. -/
theorem joined_violations_cons (vs : List Violation) (rest : List Outcome) :
    joined .collect (violations vs :: rest) =
      (violations vs).followedBy .collect (joined .collect rest) := by
  have hfirst : (violations vs :: rest).findSome? failure? = rest.findSome? failure? := rfl
  cases hrest : rest.findSome? failure? with
  | some cause =>
    rw [joined_of_failure hrest, joined_of_failure (hfirst.trans hrest)]
    rfl
  | none =>
    rw [joined_of_no_failure hrest, joined_of_no_failure (hfirst.trans hrest),
      if_neg (by simp), List.flatMap_cons]
    split
    case isTrue hpass =>
      rw [flatMap_listed_of_pass hpass, List.append_nil]
      rfl
    case isFalse => rfl

/-- The first outcome, followed by what the others come to. -/
theorem joined_cons (mode : Reporting) (first : Outcome) (rest : List Outcome) :
    joined mode (first :: rest) = first.followedBy mode (joined mode rest) := by
  cases mode with
  | failFast => cases first <;> rfl
  | collect =>
    cases first with
    | pass =>
      have hfirst : (pass :: rest).findSome? failure? = rest.findSome? failure? := rfl
      simp [joined, hfirst, listed, followedBy]
    | failure cause => rfl
    | violations vs => exact joined_violations_cons vs rest

/-- **What the loop comes to** can be told without the loop. -/
theorem gather_eq_joined (mode : Reporting) (check : α → Outcome) (things : List α) :
    gather mode check things = joined mode (things.map check) := by
  induction things with
  | nil => cases mode <;> rfl
  | cons a rest ih => rw [gather_cons, List.map_cons, joined_cons, ih]

/-! ## Loops in a row and inside each other -/

theorem gather_append (mode : Reporting) (check : α → Outcome) (first second : List α) :
    gather mode check (first ++ second) =
      (gather mode check first).followedBy mode (gather mode check second) := by
  induction first with
  | nil => rfl
  | cons a rest ih => rw [List.cons_append, gather_cons, gather_cons, ih, followedBy_assoc]

/-- A loop over groups, each of which is joined by a loop, is a loop over all of their members. -/
theorem gather_flatten (mode : Reporting) (check : α → Outcome) (groups : List (List α)) :
    gather mode (gather mode check) groups = gather mode check groups.flatten := by
  induction groups with
  | nil => rfl
  | cons group rest ih => rw [gather_cons, ih, List.flatten_cons, gather_append]

/-- **Outcomes are joined in their order, and the first one that ends the loop wins.**

Whatever the things to be checked are, the loop over them comes to what their outcomes come to
together, and it does not matter whether they are first divided into groups, each with a loop of its
own. -/
theorem gather_joins_in_order (mode : Reporting) (check : α → Outcome) :
    (∀ things, gather mode check things = joined mode (things.map check)) ∧
      ∀ groups, gather mode (gather mode check) groups = gather mode check groups.flatten :=
  ⟨gather_eq_joined mode check, gather_flatten mode check⟩

end Outcome
end MessageConstraints
