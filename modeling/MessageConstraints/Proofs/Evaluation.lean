import Mathlib.Tactic.Common
import MessageConstraints.Evaluation
import MessageConstraints.Proofs.Joining

/-!
# What evaluation looks up

Evaluating a message looks up the checks of its type, and then only those of the types of nested
messages that these checks name.  So two tables that agree on a set of types which is closed under
that step give the same outcomes for the types of the set (`evaluate_congr`).

What nested messages come to is joined, moved and composed on the way up, and nothing else is done
to it.  So a relation between outcomes that these three keep (`Outcome.Congruence`) holds of what a
message comes to if it holds of what the nested messages come to (`Outcome.Congruence.judge`).
-/

namespace MessageConstraints

theorem Outcome.gather_congr {α : Type} {mode : Reporting} {check check' : α → Outcome}
    {things : List α} (h : ∀ a ∈ things, check a = check' a) :
    gather mode check things = gather mode check' things := by
  rw [gather_eq_joined, gather_eq_joined, List.map_congr_left h]

/-- A relation between outcomes that all ways of passing them on keep: changing their violations,
joining them with others, and composing what a nested message comes to. -/
structure Outcome.Congruence (R : Outcome → Outcome → Prop) : Prop where
  refl : ∀ outcome, R outcome outcome
  map : ∀ (f : Violation → Violation) {first second}, R first second →
    R (first.map f) (second.map f)
  followedBy : ∀ mode {first second first' second'}, R first second → R first' second' →
    R (first.followedBy mode first') (second.followedBy mode second')
  compose : ∀ field steps {first second}, R first second →
    R (Check.compose field steps first) (Check.compose field steps second)

namespace Outcome.Congruence

variable {R : Outcome → Outcome → Prop} {mode : Reporting}

theorem gather {α : Type} (h : Congruence R) {check check' : α → Outcome} {things : List α}
    (hthings : ∀ a ∈ things, R (check a) (check' a)) :
    R (gather mode check things) (Outcome.gather mode check' things) :=
  gather_rel (h.refl .pass) fun a ha _ _ hrest => h.followedBy mode (hthings a ha) hrest

/-- What a check comes to depends on nested messages only through what they come to. -/
theorem outcome (h : Congruence R) {visit visit' : String → Message → Outcome}
    (hvisit : ∀ nested inner, R (visit nested inner) (visit' nested inner)) (message : Message)
    (check : Check) : R (check.outcome mode visit message) (check.outcome mode visit' message) := by
  cases check with
  | recurse field nested =>
    exact h.gather fun inner _ => h.compose field.name inner.1 (hvisit nested inner.2)
  | _ => exact h.refl _

/-- What a message comes to depends on nested messages only through what they come to. -/
theorem judge (h : Congruence R) {table table' : CheckTable} {typeName : String}
    (htable : table typeName = table' typeName) {visit visit' : String → Message → Outcome}
    (hvisit : ∀ nested inner, R (visit nested inner) (visit' nested inner)) (message : Message) :
    R (table.judge mode visit typeName message) (table'.judge mode visit' typeName message) := by
  unfold CheckTable.judge
  rw [← htable]
  cases table typeName with
  | error cause => exact h.refl _
  | ok checks => exact h.map _ (h.gather fun check _ => h.outcome hvisit message check)

end Outcome.Congruence

/-- A check asks about nested messages of one type only. -/
theorem Check.outcome_congr {reporting : Reporting} {visit visit' : String → Message → Outcome}
    (message : Message) {check : Check}
    (h : ∀ nested, check.nested? = some nested → visit nested = visit' nested) :
    check.outcome reporting visit message = check.outcome reporting visit' message := by
  cases check with
  | recurse field nested =>
    have hvisit : visit nested = visit' nested := h nested rfl
    simp only [Check.outcome, hvisit]
  | _ => rfl

namespace CheckTable

/-- The types whose checks are looked up in the checks of a type. -/
def Names (table : CheckTable) (typeName nested : String) : Prop :=
  ∃ checks, table typeName = .ok checks ∧ ∃ check ∈ checks, check.nested? = some nested

theorem judge_congr {table table' : CheckTable} {typeName : String}
    (htable : table typeName = table' typeName) {reporting : Reporting}
    {visit visit' : String → Message → Outcome}
    (hvisit : ∀ nested, table.Names typeName nested → visit nested = visit' nested)
    (message : Message) :
    table.judge reporting visit typeName message =
      table'.judge reporting visit' typeName message := by
  unfold judge
  rw [← htable]
  cases hchecks : table typeName with
  | error cause => rfl
  | ok checks =>
    have hgather : Outcome.gather reporting
        (fun check => check.outcome reporting visit message) checks =
          Outcome.gather reporting (fun check => check.outcome reporting visit' message) checks :=
      Outcome.gather_congr fun check hmem => Check.outcome_congr message fun nested hnested =>
        hvisit nested ⟨checks, hchecks, check, hmem, hnested⟩
    simp only [hgather]

/-- Evaluation stays inside every set of types that is closed under nesting. -/
theorem evaluate_congr {table table' : CheckTable} (known : String → Prop)
    (hagree : ∀ name, known name → table name = table' name)
    (hclosed : ∀ name nested, known name → table.Names name nested → known nested)
    (reporting : Reporting) (limit levels : Nat) {typeName : String} (hname : known typeName)
    (message : Message) :
    table.evaluate reporting limit levels typeName message =
      table'.evaluate reporting limit levels typeName message := by
  induction levels generalizing typeName message with
  | zero => exact judge_congr (hagree _ hname) (fun _ _ => rfl) message
  | succ below ih =>
    refine judge_congr (hagree _ hname) (fun nested hnested => ?_) message
    funext inner
    exact ih (hclosed _ _ hname hnested) inner

end CheckTable

end MessageConstraints
