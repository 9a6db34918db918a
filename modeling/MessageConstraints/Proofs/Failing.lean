import Mathlib.Tactic.Common
import MessageConstraints.Proofs.Evaluation

/-!
# Where failures come from

The rules that checks apply to values give one violation at most (`Outcome.Flags`), and never fail:
whatever fails, fails in a nested message or because the checks of a type cannot be looked up
(`CheckTable.judge_eq_failure`).  Conversely, collecting looks at all that there is, so no failure
of a nested message goes unnoticed (`CheckTable.exists_failure_judge`).  In both directions the
nested messages in question are those that the checks of a type visit (`CheckTable.Visits`).
-/

namespace MessageConstraints

/-! ## Joined outcomes -/

namespace Outcome

variable {α : Type} {mode : Reporting} {cause : Failure}

@[simp] theorem map_eq_failure_iff {f : Violation → Violation} {outcome : Outcome} :
    outcome.map f = .failure cause ↔ outcome = .failure cause := by
  cases outcome <;> simp [map]

theorem followedBy_eq_failure {first second : Outcome}
    (h : first.followedBy mode second = .failure cause) :
    first = .failure cause ∨ second = .failure cause := by
  cases first with
  | pass => exact Or.inr h
  | failure other => exact Or.inl h
  | violations vs =>
    cases mode with
    | failFast => cases h
    | collect =>
      cases second with
      | failure other => exact Or.inr h
      | pass => cases h
      | violations ws => cases h

/-- Joining fails only if one of the outcomes does. -/
theorem gather_eq_failure {check : α → Outcome} {things : List α}
    (h : gather mode check things = .failure cause) : ∃ a ∈ things, check a = .failure cause := by
  induction things with
  | nil => cases h
  | cons a rest ih =>
    rw [gather_cons] at h
    rcases followedBy_eq_failure h with hfirst | hrest
    · exact ⟨a, List.mem_cons_self, hfirst⟩
    · obtain ⟨b, hb, hcheck⟩ := ih hrest
      exact ⟨b, List.mem_cons_of_mem a hb, hcheck⟩

/-- Collecting fails if one of the outcomes does, if not with the same cause. -/
theorem exists_failure_gather {check : α → Outcome} {things : List α} {a : α} (ha : a ∈ things)
    (hcheck : check a = .failure cause) :
    ∃ other, gather .collect check things = .failure other := by
  have hmem : check a ∈ things.map check := List.mem_map_of_mem ha
  cases hfirst : (things.map check).findSome? failure? with
  | none =>
    have hnone := List.findSome?_eq_none_iff.mp hfirst (check a) hmem
    rw [hcheck] at hnone
    cases hnone
  | some other => exact ⟨other, by rw [gather_eq_joined, joined_of_failure hfirst]⟩

end Outcome

open Outcome

/-! ## Single values -/

/-- An outcome is that nothing is broken, or a single violation of a kind at a place. -/
inductive Outcome.Flags (kind : ConstraintKind) (place : FieldPath) : Outcome → Prop
  | pass : Flags kind place .pass
  | single {v : Violation} : v.path = place → v.kind = kind → Flags kind place (.single v)

namespace Outcome

variable {kind : ConstraintKind} {place : FieldPath} {outcome : Outcome}

theorem Flags.ne_failure (h : outcome.Flags kind place) (cause : Failure) :
    outcome ≠ .failure cause := by
  rintro rfl
  cases h

theorem Flags.below (h : outcome.Flags kind place) (steps : FieldPath) :
    (outcome.map (.below steps)).Flags kind (steps ++ place) := by
  cases h with
  | pass => exact .pass
  | single hpath hkind => exact .single (congrArg (steps ++ ·) hpath) hkind

theorem flags_demand (condition : Bool) {v : Violation} (hpath : v.path = place)
    (hkind : v.kind = kind) : (Check.demand condition v).Flags kind place := by
  cases condition with
  | true => exact .pass
  | false => exact .single hpath hkind

theorem flags_pattern (field : String) (regex : Pattern) (message : Option String)
    (value : Value) : (Check.patternOutcome field regex message value).Flags .pattern [] := by
  unfold Check.patternOutcome
  split
  · split
    · exact .pass
    · exact .single rfl rfl
  · exact .pass

theorem flags_numberRule {α : Type} [Measure α] (rule : NumberRule α) (field : String)
    (value : Value) : (rule.check field value).Flags rule.test.kind [] := by
  unfold NumberRule.check
  split
  · exact .pass
  · split
    · exact .pass
    · exact .single rfl rfl

end Outcome

/-! ## Checks -/

namespace Check

variable {mode : Reporting} {cause : Failure}

theorem demand_ne_failure (condition : Bool) (v : Violation) :
    demand condition v ≠ .failure cause :=
  (flags_demand condition rfl rfl).ne_failure cause

theorem numberCheck_ne_failure (rule : NumberCheck) (field : String) (value : Value) :
    rule.check field value ≠ .failure cause := by
  cases rule <;> exact (flags_numberRule _ field value).ne_failure cause

theorem eachOutcome_ne_failure {rule : Value → Outcome}
    (hrule : ∀ value, rule value ≠ .failure cause) (value : Value) :
    eachOutcome mode rule value ≠ .failure cause := by
  cases value with
  | list items =>
    intro h
    obtain ⟨entry, -, hentry⟩ := gather_eq_failure h
    exact hrule entry.1 (map_eq_failure_iff.mp hentry)
  | _ => exact hrule _

theorem distinctOutcome_ne_failure (field : String) (value : Value) :
    distinctOutcome mode field value ≠ .failure cause := by
  cases value with
  | list items =>
    simp only [distinctOutcome]
    generalize List.map _ _ = found
    cases found <;> simp [ofList]
  | _ => simp [distinctOutcome]

theorem compose_eq_failure_iff {field : String} {steps : FieldPath} {outcome : Outcome} :
    compose field steps outcome = .failure cause ↔ outcome = .failure cause := by
  cases outcome <;> simp [compose]

/-- A check fails only if it descends into a nested message that fails. -/
theorem outcome_eq_failure {visit : String → Message → Outcome} {message : Message} {check : Check}
    (h : check.outcome mode visit message = .failure cause) :
    ∃ field nestedType steps nested, check = .recurse field nestedType ∧
      (steps, nested) ∈ nestedMessages field message ∧
      visit nestedType nested = .failure cause := by
  cases check with
  | recurse field nestedType =>
    obtain ⟨⟨steps, nested⟩, hmem, hcompose⟩ := gather_eq_failure h
    exact ⟨field, nestedType, steps, nested, rfl, hmem, compose_eq_failure_iff.mp hcompose⟩
  | required field => exact absurd h (demand_ne_failure _ _)
  | dependency field partner text => exact absurd h (demand_ne_failure _ _)
  | choice oneof text => exact absurd h (demand_ne_failure _ _)
  | combination source expression fields => exact absurd h (demand_ne_failure _ _)
  | pattern field regex text =>
    have hrule : ∀ value, patternOutcome field.name regex text value ≠ .failure cause :=
      fun value => (flags_pattern field.name regex text value).ne_failure cause
    exact absurd (map_eq_failure_iff.mp h) (eachOutcome_ne_failure hrule _)
  | number field rule =>
    have hrule : ∀ value, rule.check field.name value ≠ .failure cause :=
      numberCheck_ne_failure rule field.name
    exact absurd (map_eq_failure_iff.mp h) (eachOutcome_ne_failure hrule _)
  | distinct field =>
    exact absurd (map_eq_failure_iff.mp h) (distinctOutcome_ne_failure field.name _)

end Check

/-! ## Visited messages -/

namespace CheckTable

variable {table : CheckTable} {mode : Reporting} {visit : String → Message → Outcome}
  {typeName nestedType : String} {message nested : Message} {cause : Failure}

/-- The checks of a type descend into a nested message and put it to the checks of another type. -/
def Visits (table : CheckTable) (typeName : String) (message : Message) (nestedType : String)
    (nested : Message) : Prop :=
  ∃ checks field steps, table typeName = .ok checks ∧ .recurse field nestedType ∈ checks ∧
    (steps, nested) ∈ Check.nestedMessages field message

/-- A message fails because its type has no checks, or because a message that is visited fails. -/
theorem judge_eq_failure (h : table.judge mode visit typeName message = .failure cause) :
    (∃ error, table typeName = .error error ∧ cause = .compilation error) ∨
      ∃ nestedType nested, table.Visits typeName message nestedType nested ∧
        visit nestedType nested = .failure cause := by
  unfold judge at h
  cases hchecks : table typeName with
  | error error =>
    rw [hchecks] at h
    exact Or.inl ⟨error, rfl, (Outcome.failure.inj h).symm⟩
  | ok checks =>
    rw [hchecks] at h
    obtain ⟨check, hmem, hcheck⟩ := gather_eq_failure (map_eq_failure_iff.mp h)
    obtain ⟨field, nestedType, steps, nested, rfl, hnested, hvisit⟩ :=
      Check.outcome_eq_failure hcheck
    exact Or.inr ⟨nestedType, nested, ⟨checks, field, steps, hchecks, hmem, hnested⟩, hvisit⟩

/-- Collecting fails if a message that is visited does. -/
theorem exists_failure_judge (hvisits : table.Visits typeName message nestedType nested)
    (hvisit : visit nestedType nested = .failure cause) :
    ∃ other, table.judge .collect visit typeName message = .failure other := by
  obtain ⟨checks, field, steps, hchecks, hmem, hnested⟩ := hvisits
  have hcompose : Check.compose field.name steps (visit nestedType nested) = .failure cause :=
    Check.compose_eq_failure_iff.mpr hvisit
  obtain ⟨inner, hinner⟩ : ∃ inner,
      (Check.recurse field nestedType).outcome .collect visit message = .failure inner :=
    exists_failure_gather hnested hcompose
  obtain ⟨other, hother⟩ : ∃ other,
      gather .collect (fun check => check.outcome .collect visit message) checks =
        .failure other := exists_failure_gather hmem hinner
  refine ⟨other, ?_⟩
  simp only [judge, hchecks, hother, Outcome.map]

/-- What a message comes to depends only on what the messages come to that are visited. -/
theorem judge_congr_visits {visit' : String → Message → Outcome}
    (h : ∀ nestedType nested, table.Visits typeName message nestedType nested →
      visit nestedType nested = visit' nestedType nested) :
    table.judge mode visit typeName message = table.judge mode visit' typeName message := by
  unfold judge
  cases hchecks : table typeName with
  | error error => rfl
  | ok checks =>
    have hgather : gather mode (fun check => check.outcome mode visit message) checks =
        gather mode (fun check => check.outcome mode visit' message) checks := by
      refine gather_congr fun check hmem => ?_
      cases check with
      | recurse field nestedType =>
        refine gather_congr ?_
        rintro ⟨steps, nested⟩ hnested
        have hvisit := h nestedType nested ⟨checks, field, steps, hchecks, hmem, hnested⟩
        show Check.compose _ _ (visit nestedType nested) =
          Check.compose _ _ (visit' nestedType nested)
        rw [hvisit]
      | _ => rfl
    simp only [hgather]

/-- What fails to compile is one of the types that visits lead to. -/
theorem evaluate_eq_compilation (known : String → Message → Prop)
    (hvisits : ∀ typeName message nestedType nested, known typeName message →
      table.Visits typeName message nestedType nested → known nestedType nested)
    {limit levels : Nat} (hknown : known typeName message) {error : CompileError}
    (h : table.evaluate mode limit levels typeName message = .failure (.compilation error)) :
    ∃ failing inner, known failing inner ∧ table failing = .error error := by
  induction levels generalizing typeName message with
  | zero =>
    rcases judge_eq_failure h with ⟨other, hother, heq⟩ | ⟨nestedType, nested, -, hnested⟩
    · obtain rfl := Failure.compilation.inj heq
      exact ⟨typeName, message, hknown, hother⟩
    · cases hnested
  | succ below ih =>
    rcases judge_eq_failure h with ⟨other, hother, heq⟩ | ⟨nestedType, nested, hstep, hnested⟩
    · obtain rfl := Failure.compilation.inj heq
      exact ⟨typeName, message, hknown, hother⟩
    · exact ih (hvisits _ _ _ _ hknown hstep) hnested

/-- Nothing fails to compile where all types that visits lead to have checks. -/
theorem evaluate_ne_compilation (known : String → Message → Prop)
    (hchecks : ∀ typeName message, known typeName message → ∃ checks, table typeName = .ok checks)
    (hvisits : ∀ typeName message nestedType nested, known typeName message →
      table.Visits typeName message nestedType nested → known nestedType nested)
    (limit levels : Nat) (hknown : known typeName message) (error : CompileError) :
    table.evaluate mode limit levels typeName message ≠ .failure (.compilation error) := by
  intro h
  obtain ⟨failing, inner, hinner, herror⟩ := evaluate_eq_compilation known hvisits hknown h
  obtain ⟨checks, hok⟩ := hchecks failing inner hinner
  rw [hok] at herror
  cases herror

end CheckTable

end MessageConstraints
