import Mathlib.Tactic.Common
import MessageConstraints.Proofs.Duplicates
import MessageConstraints.Proofs.Joining
import MessageConstraints.Validator

/-!
# Ending at the first violation

A validator that ends at the first violation gives the beginning of what it gives when it collects
all of them: the nested messages that lead to the first broken constraint, and that constraint.
`Outcome.Shortens` relates the two outcomes; it is kept by everything that outcomes go through on
their way out of nested messages (`shortens_gather`, `shortens_compose`, `Shortens.map`), so
an induction on the levels of nesting gives it for whole messages (`shortens_evaluate`).
-/

namespace MessageConstraints

/-! ## The way to a broken constraint -/

/-- Violations that lead from a place inwards to a single broken constraint: any number of nested
messages, each inside the one before, and then the constraint. -/
inductive LeadsIn : FieldPath → List Violation → Prop where
  | broken {place : FieldPath} {v : Violation} :
      v.kind ≠ .recurse → place <+: v.path → LeadsIn place [v]
  | nested {place : FieldPath} {v : Violation} {vs : List Violation} :
      v.kind = .recurse → place <+: v.path → place ≠ v.path → LeadsIn v.path vs →
      LeadsIn place (v :: vs)

namespace LeadsIn

theorem ne_nil {place : FieldPath} {vs : List Violation} (h : LeadsIn place vs) : vs ≠ [] := by
  cases h <;> simp

/-- The first of the violations lies inside the place, and strictly so if it is one of a nested
message. -/
theorem head {place : FieldPath} {v : Violation} {vs : List Violation}
    (h : LeadsIn place (v :: vs)) :
    place <+: v.path ∧ (v.kind = .recurse → place ≠ v.path) := by
  cases h with
  | broken hkind hpath => exact ⟨hpath, fun hrecurse => absurd hrecurse hkind⟩
  | nested _ hpath hne _ => exact ⟨hpath, fun _ => hne⟩

/-- What leads in from a place leads in from every place around it. -/
theorem of_outer {outer place : FieldPath} {vs : List Violation} (h : LeadsIn place vs)
    (houter : outer <+: place) : LeadsIn outer vs := by
  cases h with
  | broken hkind hpath => exact .broken hkind (houter.trans hpath)
  | nested hkind hpath hne hrest =>
    refine .nested hkind (houter.trans hpath) ?_ hrest
    rintro rfl
    exact hne (hpath.eq_of_length_le houter.length_le)

/-- Moving all places inwards by the same steps changes nothing. -/
theorem map {f : Violation → Violation} {steps : FieldPath} (hkind : ∀ v, (f v).kind = v.kind)
    (hpath : ∀ v, (f v).path = steps ++ v.path) {place : FieldPath} {vs : List Violation}
    (h : LeadsIn place vs) : LeadsIn (steps ++ place) (vs.map f) := by
  induction h with
  | broken hv hplace =>
    refine .broken (by rw [hkind]; exact hv) ?_
    rw [hpath]
    exact (List.prefix_append_right_inj steps).mpr hplace
  | nested hv hplace hne _ ih =>
    refine .nested (by rw [hkind]; exact hv) ?_ ?_ (by rw [hpath]; exact ih)
    · rw [hpath]
      exact (List.prefix_append_right_inj steps).mpr hplace
    · rw [hpath]
      exact fun heq => hne (List.append_cancel_left heq)

end LeadsIn

/-- A list of violations that ends at the first broken constraint: some nested messages, each at a
place strictly inside that of the one before, followed by one violation that is none of a nested
message and that lies inside the last of them. -/
def EndsAtFirst (vs : List Violation) : Prop :=
  ∃ parents last, vs = parents ++ [last] ∧
    (∀ parent ∈ parents, parent.kind = .recurse) ∧ last.kind ≠ .recurse ∧
    parents.IsChain (fun outer inner => outer.path <+: inner.path ∧ outer.path ≠ inner.path) ∧
    ∀ parent ∈ parents.getLast?, parent.path <+: last.path

theorem LeadsIn.endsAtFirst {place : FieldPath} {vs : List Violation} (h : LeadsIn place vs) :
    EndsAtFirst vs := by
  induction h with
  | @broken place v hkind hpath => exact ⟨[], v, rfl, by simp, hkind, .nil, by simp⟩
  | @nested place v vs hkind hpath hne hrest ih =>
    obtain ⟨parents, last, rfl, hparents, hlast, hchain, hinside⟩ := ih
    refine ⟨v :: parents, last, rfl, ?_, hlast, ?_, ?_⟩
    · exact List.forall_mem_cons.mpr ⟨hkind, hparents⟩
    · cases parents with
      | nil => exact .singleton _
      | cons parent rest =>
        obtain ⟨hle, hne⟩ := hrest.head
        exact .cons_cons ⟨hle, hne (hparents parent List.mem_cons_self)⟩ hchain
    · cases parents with
      | nil => simpa using hrest.head.1
      | cons parent rest => simpa using hinside

/-! ## Outcomes in the two modes -/

namespace Outcome

/-- The second outcome is the first one cut off at the first broken constraint.  If the first one
is a failure that comes after some violations, the second need not get that far. -/
inductive Shortens : Outcome → Outcome → Prop where
  | pass : Shortens pass pass
  | failure (cause : Failure) : Shortens (failure cause) (failure cause)
  | violations {vs ws : List Violation} :
      ws <+: vs → LeadsIn [] ws → Shortens (violations vs) (violations ws)
  | beforeFailure {cause : Failure} {ws : List Violation} :
      LeadsIn [] ws → Shortens (failure cause) (violations ws)

namespace Shortens

variable {all first : Outcome}

theorem pass_iff (h : Shortens all first) : all = .pass ↔ first = .pass := by
  cases h <;> simp

theorem exists_of_violations (h : Shortens all first) {vs : List Violation}
    (hall : all = .violations vs) :
    ∃ ws, first = .violations ws ∧ ws <+: vs ∧ EndsAtFirst ws := by
  subst hall
  cases h with
  | violations hpre hws => exact ⟨_, rfl, hpre, hws.endsAtFirst⟩

theorem eq_failure (h : Shortens all first) {cause : Failure} (hfirst : first = .failure cause) :
    all = .failure cause := by
  subst hfirst
  cases h with
  | failure => rfl

theorem failure_or (h : Shortens all first) {cause : Failure} (hall : all = .failure cause) :
    first = .failure cause ∨ ∃ ws, first = .violations ws ∧ EndsAtFirst ws := by
  subst hall
  cases h with
  | failure => exact Or.inl rfl
  | beforeFailure hws => exact Or.inr ⟨_, rfl, hws.endsAtFirst⟩

/-- No error is without violations. -/
theorem ne_violations_nil (h : Shortens all first) :
    all ≠ .violations [] ∧ first ≠ .violations [] := by
  constructor
  · rintro rfl
    cases h with
    | violations hpre hws => exact hws.ne_nil (List.prefix_nil.mp hpre)
  · rintro rfl
    cases h with
    | violations _ hws => exact hws.ne_nil rfl
    | beforeFailure hws => exact hws.ne_nil rfl

end Shortens

/-- Unless there is an error without violations, no violations are found exactly in what passes. -/
theorem found_eq_ok_nil_iff {outcome : Outcome} (h : outcome ≠ violations []) :
    outcome.found = .ok [] ↔ outcome = pass := by
  cases outcome with
  | pass => simp [found]
  | failure cause => simp [found]
  | violations vs =>
    have hvs : vs ≠ [] := by
      rintro rfl
      exact h rfl
    simp [found, hvs]

/-- A single broken constraint is the same in both modes. -/
theorem shortens_single {v : Violation} (h : v.kind ≠ .recurse) :
    Shortens (single v) (single v) :=
  .violations (List.prefix_refl _) (.broken h List.nil_prefix)

theorem shortens_demand (condition : Bool) {v : Violation} (h : v.kind ≠ .recurse) :
    Shortens (Check.demand condition v) (Check.demand condition v) := by
  unfold Check.demand
  split
  · exact .pass
  · exact shortens_single h

/-- Moving all places inwards by the same steps keeps the relation. -/
theorem Shortens.map {f : Violation → Violation} {steps : FieldPath}
    (hkind : ∀ v, (f v).kind = v.kind) (hpath : ∀ v, (f v).path = steps ++ v.path)
    {all first : Outcome} (h : Shortens all first) : Shortens (all.map f) (first.map f) := by
  have hleads : ∀ {ws : List Violation}, LeadsIn [] ws → LeadsIn [] (ws.map f) :=
    fun h => (h.map hkind hpath).of_outer List.nil_prefix
  cases h with
  | pass => exact .pass
  | failure cause => exact .failure cause
  | violations hpre hws => exact .violations (hpre.map f) (hleads hws)
  | beforeFailure hws => exact .beforeFailure (hleads hws)

theorem Shortens.below (steps : FieldPath) {all first : Outcome} (h : Shortens all first) :
    Shortens (all.map (.below steps)) (first.map (.below steps)) :=
  h.map (f := .below steps) (fun _ => rfl) (fun _ => rfl)

theorem Shortens.inMessage (typeName : String) {all first : Outcome} (h : Shortens all first) :
    Shortens (all.map (.inMessage typeName)) (first.map (.inMessage typeName)) :=
  h.map (f := .inMessage typeName) (fun _ => rfl)
    (show ∀ v, (Violation.inMessage typeName v).path = [] ++ v.path from fun _ => rfl)

theorem shortens_followedBy {all first all' first' : Outcome} (h : Shortens all first)
    (h' : Shortens all' first') :
    Shortens (all.followedBy .collect all') (first.followedBy .failFast first') := by
  cases h with
  | pass => exact h'
  | failure cause => exact .failure cause
  | beforeFailure hws => exact .beforeFailure hws
  | violations hpre hws =>
    -- What follows can only add to the collected violations or replace them by a failure.
    cases all' with
    | pass => exact .violations hpre hws
    | violations _ => exact .violations (hpre.trans (List.prefix_append _ _)) hws
    | failure _ => exact .beforeFailure hws

/-- Joining keeps the relation, and ends at the first of the outcomes that has violations. -/
theorem shortens_gather {α : Type} {all first : α → Outcome} {things : List α}
    (h : ∀ a ∈ things, Shortens (all a) (first a)) :
    Shortens (gather .collect all things) (gather .failFast first things) := by
  refine gather_rel .pass fun a ha _ _ hrest => ?_
  exact shortens_followedBy (h a ha) hrest

/-- The violation of a nested message goes in front of what leads in from it. -/
theorem shortens_compose (field : String) (steps : FieldPath) {all first : Outcome}
    (h : Shortens all first) :
    Shortens (Check.compose field steps all) (Check.compose field steps first) := by
  have hleads : ∀ {ws : List Violation} {parent : Violation}, parent.kind = .recurse →
      parent.path = .field field :: steps → LeadsIn [] ws →
      LeadsIn [] (parent :: ws.map (.below (.field field :: steps))) := by
    intro ws parent hkind hpath hws
    have hmoved := hws.map (f := .below (.field field :: steps)) (fun _ => rfl) (fun _ => rfl)
    rw [List.append_nil] at hmoved
    refine .nested hkind List.nil_prefix (by simp [hpath]) ?_
    rw [hpath]
    exact hmoved
  cases h with
  | pass => exact .pass
  | failure cause => exact .failure cause
  | violations hpre hws =>
    exact .violations (List.cons_prefix_cons.mpr ⟨rfl, hpre.map _⟩) (hleads rfl rfl hws)
  | beforeFailure hws => exact .beforeFailure (hleads rfl rfl hws)

/-- A rule on single values is the same in both modes, and ends at the first element of a list that
breaks it. -/
theorem shortens_eachOutcome {rule : Value → Outcome}
    (h : ∀ value, Shortens (rule value) (rule value)) (value : Value) :
    Shortens (Check.eachOutcome .collect rule value) (Check.eachOutcome .failFast rule value) := by
  cases value with
  | list items => exact shortens_gather fun item _ => (h item.1).below _
  | _ => exact h _

theorem shortens_distinctOutcome (field : String) (value : Value) :
    Shortens (Check.distinctOutcome .collect field value)
      (Check.distinctOutcome .failFast field value) := by
  cases value with
  | list items =>
    rw [Check.distinctOutcome_collect, Check.distinctOutcome_failFast]
    cases Check.laterDuplicates items with
    | nil => exact .pass
    | cons first rest =>
      refine .violations (List.cons_prefix_cons.mpr ⟨rfl, List.nil_prefix⟩) ?_
      exact .broken (by simp [Check.duplicateViolation]) List.nil_prefix
  | _ => exact .pass

theorem shortens_patternOutcome (field : String) (regex : Pattern) (message : Option String)
    (value : Value) :
    Shortens (Check.patternOutcome field regex message value)
      (Check.patternOutcome field regex message value) := by
  unfold Check.patternOutcome
  split
  · split
    · exact .pass
    · exact shortens_single (by simp)
  · exact .pass

theorem shortens_numberRule {α : Type} [Measure α] (rule : NumberRule α) (field : String)
    (value : Value) : Shortens (rule.check field value) (rule.check field value) := by
  unfold NumberRule.check
  split
  · exact .pass
  · split
    · exact .pass
    · refine shortens_single ?_
      cases rule.test <;> simp [NumberTest.kind]

theorem shortens_numberCheck (rule : NumberCheck) (field : String) (value : Value) :
    Shortens (rule.check field value) (rule.check field value) := by
  cases rule <;> exact shortens_numberRule _ field value

/-- Every check keeps the relation if the nested messages it is told about do. -/
theorem shortens_check {all first : String → Message → Outcome}
    (h : ∀ typeName nested, Shortens (all typeName nested) (first typeName nested))
    (message : Message) (check : Check) :
    Shortens (check.outcome .collect all message) (check.outcome .failFast first message) := by
  cases check with
  | required field => exact shortens_demand _ (by simp)
  | dependency field partner text => exact shortens_demand _ (by simp)
  | choice oneof text => exact shortens_demand _ (by simp)
  | combination source expression fields => exact shortens_demand _ (by simp)
  | pattern field regex text =>
    exact (shortens_eachOutcome (shortens_patternOutcome field.name regex text) _).below _
  | number field rule =>
    exact (shortens_eachOutcome (shortens_numberCheck rule field.name) _).below _
  | distinct field => exact (shortens_distinctOutcome field.name _).below _
  | recurse field nested =>
    exact shortens_gather fun inner _ => shortens_compose field.name inner.1 (h nested inner.2)

end Outcome

open Outcome

/-- One level of evaluation keeps the relation. -/
theorem CheckTable.shortens_judge (table : CheckTable) {all first : String → Message → Outcome}
    (h : ∀ typeName nested, Shortens (all typeName nested) (first typeName nested))
    (typeName : String) (message : Message) :
    Shortens (table.judge .collect all typeName message)
      (table.judge .failFast first typeName message) := by
  unfold CheckTable.judge
  cases table typeName with
  | error cause => exact .failure _
  | ok checks =>
    exact (shortens_gather fun check _ => shortens_check h message check).inMessage _

/-- In fail-fast mode a message comes to what it comes to otherwise, cut off at the first broken
constraint. -/
theorem CheckTable.shortens_evaluate (table : CheckTable) (limit levels : Nat) (typeName : String)
    (message : Message) :
    Shortens (table.evaluate .collect limit levels typeName message)
      (table.evaluate .failFast limit levels typeName message) := by
  induction levels generalizing typeName message with
  | zero => exact table.shortens_judge (fun _ _ => .failure _) typeName message
  | succ below ih => exact table.shortens_judge ih typeName message

/-! ## Validators in the two modes -/

namespace Validator

/-- What a message comes to when a validator reports in a given way and descends a given number of
levels, whatever its own manner is. -/
def report (validator : Validator) (reporting : Reporting) (depth pool : Nat)
    (message : Message) : Outcome :=
  ({ validator with manner := ⟨reporting, depth⟩ }.validate pool message []).2

/-- A call with options is a call in the manner that the options come to. -/
theorem validate_eq_report (validator : Validator) (pool : Nat) (message : Message)
    (options : List CallOption) :
    (validator.validate pool message options).2 =
      validator.report (validator.manner.withOptions options).reporting
        (validator.manner.withOptions options).maxDepth pool message := by
  unfold report validate load
  cases validator.isLazy <;> rfl

theorem shortens_report (validator : Validator) (depth pool : Nat) (message : Message) :
    Shortens (validator.report .collect depth pool message)
      (validator.report .failFast depth pool message) := by
  unfold report validate load
  cases validator.isLazy <;> exact CheckTable.shortens_evaluate _ depth depth _ message

/-- **Ending at the first violation agrees with collecting.**  The two modes accept the same
messages.  Where all violations are collected, fail-fast mode gives the first of them, up to the
first that is none of a nested message; where it fails, collecting fails with the same cause; and
where collecting fails, it fails likewise unless it has found violations before.  An error always
has violations, so that a message without any is one that is accepted.  Every call is in one of the
two modes. -/
theorem failFast_agrees_with_collect (validator : Validator) (depth pool : Nat)
    (message : Message) :
    let all := validator.report .collect depth pool message
    let first := validator.report .failFast depth pool message
    (all = .pass ↔ first = .pass) ∧
    (∀ vs, all = .violations vs → ∃ ws, first = .violations ws ∧ ws <+: vs ∧ EndsAtFirst ws) ∧
    (∀ cause, first = .failure cause → all = .failure cause) ∧
    (∀ cause, all = .failure cause →
      first = .failure cause ∨ ∃ ws, first = .violations ws ∧ EndsAtFirst ws) ∧
    (∀ reporting,
      validator.report reporting depth pool message ≠ .violations [] ∧
      (({ validator with manner := ⟨reporting, depth⟩ }.violations pool message).2 = .ok [] ↔
        ({ validator with manner := ⟨reporting, depth⟩ }.validate pool message []).2 = .pass)) ∧
    ∀ options, (validator.validate pool message options).2 =
      validator.report (validator.manner.withOptions options).reporting
        (validator.manner.withOptions options).maxDepth pool message := by
  have hshort := validator.shortens_report depth pool message
  refine ⟨hshort.pass_iff, fun vs h => hshort.exists_of_violations h,
    fun cause h => hshort.eq_failure h, fun cause h => hshort.failure_or h, fun reporting => ?_,
    validator.validate_eq_report pool message⟩
  have hne : validator.report reporting depth pool message ≠ .violations [] := by
    cases reporting with
    | collect => exact hshort.ne_violations_nil.1
    | failFast => exact hshort.ne_violations_nil.2
  exact ⟨hne, found_eq_ok_nil_iff hne⟩

end Validator

end MessageConstraints
