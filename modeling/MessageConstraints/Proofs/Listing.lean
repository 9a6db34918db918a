import Mathlib.Tactic.Common
import MessageConstraints.Proofs.Depth

/-!
# The violations of a message in their order

When all violations are collected and nothing fails, those of a message are the violations that come
of the sites of its schema, one site after the other (`Sources.violations_judge`).  What comes of a
constraint on the message itself are violations of this constraint
(`Site.breaks_of_mem_violations`).  What comes of a constraint that asks for recursion is a block of
violations for each nested message that has any (`Site.violations_recurse`): one that says so,
followed by those of the nested message, seen from the message around it (`Violation.block`).
-/

namespace MessageConstraints

open Outcome

/-! ## Collecting -/

namespace Outcome

variable {α : Type} {outcome first second : Outcome} {vs : List Violation}

theorem listed_of_found (h : outcome.found = .ok vs) : outcome.listed = vs := by
  cases outcome with
  | failure cause => cases h
  | pass => exact Except.ok.inj h
  | violations us => exact Except.ok.inj h

theorem listed_map (f : Violation → Violation) (outcome : Outcome) :
    (outcome.map f).listed = outcome.listed.map f := by
  cases outcome <;> rfl

theorem Flags.found {kind : ConstraintKind} {place : FieldPath} (h : outcome.Flags kind place) :
    outcome.found = .ok outcome.listed := by
  cases h <;> rfl

/-- What is collected from two outcomes in a row is found in the one, and then in the other. -/
theorem found_followedBy_eq_ok (h : (first.followedBy .collect second).found = .ok vs) :
    ∃ us ws, first.found = .ok us ∧ second.found = .ok ws ∧ vs = us ++ ws := by
  cases first with
  | failure cause => cases h
  | pass => exact ⟨[], vs, rfl, h, rfl⟩
  | violations us =>
    cases second with
    | failure cause => cases h
    | pass => exact ⟨us, [], rfl, rfl, by rw [List.append_nil, ← Except.ok.inj h]⟩
    | violations ws => exact ⟨us, ws, rfl, rfl, (Except.ok.inj h).symm⟩

/-- What is collected from outcomes that do not fail are the violations of all of them. -/
theorem found_gather {check : α → Outcome} {things : List α}
    (h : ∀ a ∈ things, (check a).found = .ok (check a).listed) :
    (gather .collect check things).found = .ok (things.flatMap fun a => (check a).listed) := by
  induction things with
  | nil => rfl
  | cons a rest ih =>
    rw [gather_cons, List.flatMap_cons]
    exact found_followedBy (h a List.mem_cons_self) (ih fun b hb => h b (List.mem_cons_of_mem a hb))

/-- Conversely, if something is collected from outcomes, none of them fails, and it is what is
collected from all of them. -/
theorem found_gather_eq_ok {check : α → Outcome} {things : List α}
    (h : (gather .collect check things).found = .ok vs) :
    (∀ a ∈ things, (check a).found = .ok (check a).listed) ∧
      vs = things.flatMap fun a => (check a).listed := by
  induction things generalizing vs with
  | nil => exact ⟨by simp, (Except.ok.inj h).symm⟩
  | cons a rest ih =>
    rw [gather_cons] at h
    obtain ⟨us, ws, hfirst, hrest, rfl⟩ := found_followedBy_eq_ok h
    obtain ⟨hall, rfl⟩ := ih hrest
    obtain rfl := listed_of_found hfirst
    exact ⟨List.forall_mem_cons.mpr ⟨hfirst, hall⟩, rfl⟩

end Outcome

/-! ## Blocks -/

namespace Violation

/-- The violation that says that a nested message is broken.  It names the field. -/
def ofNested (typeName : String) (place : FieldPath) : Violation :=
  ⟨typeName, place, .recurse, Template.ofFormat "Nested message validation failed"
    |>.withParam "field" ((place.head?.map Segment.text).getD "")⟩

/-- The violations that a message has because of those of a nested message: none if there are none,
and otherwise one that says so, followed by those of the nested message, with the place in front of
their paths, as violations of the message around it. -/
def block (typeName : String) (place : FieldPath) : List Violation → List Violation
  | [] => []
  | v :: vs => ofNested typeName place ::
    (v :: vs).map fun inner => (inner.below place).inMessage typeName

variable {typeName : String} {place : FieldPath} {v : Violation} {vs : List Violation}

/-- A block is about one place. -/
theorem path_of_mem_block (h : v ∈ block typeName place vs) :
    v = ofNested typeName place ∨ ∃ inner ∈ vs, v = (inner.below place).inMessage typeName := by
  cases vs with
  | nil => cases h
  | cons first rest =>
    rcases List.mem_cons.mp h with hparent | hinner
    · exact Or.inl hparent
    · obtain ⟨inner, hmem, rfl⟩ := List.mem_map.mp hinner
      exact Or.inr ⟨inner, hmem, rfl⟩

theorem place_isPrefix_of_mem_block (h : v ∈ block typeName place vs) : place <+: v.path := by
  rcases path_of_mem_block h with rfl | ⟨inner, -, rfl⟩
  · exact List.prefix_refl place
  · exact List.prefix_append place inner.path

end Violation

/-- What a nested message comes to, seen from the message around it, is a block of violations. -/
theorem Check.listed_compose {outcome : Outcome} (hne : outcome ≠ .violations [])
    (typeName field : String) (steps : FieldPath) :
    (compose field steps outcome).listed.map (.inMessage typeName) =
      Violation.block typeName (.field field :: steps) outcome.listed := by
  cases outcome with
  | pass => rfl
  | failure cause => rfl
  | violations vs =>
    cases vs with
    | nil => exact absurd rfl hne
    | cons v rest =>
      simp only [compose, listed, Violation.block, List.map_cons, List.map_map]
      rfl

/-! ## Sites -/

namespace Site

/-- What a message comes to because of the constraint of a site. -/
def outcome (owner : MessageSchema) (visit : String → Message → Outcome) (message : Message)
    (site : Site) : Outcome :=
  match site.compile owner with
  | .ok check => Check.collected visit message check
  | .error _ => .pass

variable {owner : MessageSchema} {visit : String → Message → Outcome} {message : Message}

/-- The violations of a message because of the constraint of a site. -/
def violations (owner : MessageSchema) (visit : String → Message → Outcome) (message : Message)
    (site : Site) : List Violation :=
  (site.outcome owner visit message).listed.map (.inMessage message.typeName)

theorem outcome_of_compile {site : Site} {check : Option Check}
    (hcompile : site.compile owner = .ok check) :
    site.outcome owner visit message = Check.collected visit message check := by
  rw [outcome, hcompile]

/-- A constraint that does not ask for recursion has violations exactly where it is broken. -/
theorem listed_violations_iff {site : Site} (hown : site.constraint ≠ .recurse true)
    {check : Option Check} (hcompile : site.compile owner = .ok check) {place : FieldPath}
    {kind : ConstraintKind} :
    Violation.Listed (site.violations owner visit message) place kind ↔
      kind = site.constraint.kind ∧ site.Breaks owner message place := by
  have hno : ∀ place nestedType nested, ¬ site.Descends message place nestedType nested := by
    intro place nestedType nested hdescends
    cases site with
    | field schema constraint => exact hown hdescends.1
    | oneof schema constraint => exact hdescends
    | message constraint => exact hdescends
  have hreports : (Check.collected visit message check).Reports
      (site.Broken owner message fun _ _ _ _ => False) :=
    reports_compile hcompile fun place nestedType nested hdescends =>
      absurd hdescends (hno place nestedType nested)
  obtain ⟨vs, hfound, hlisted⟩ := hreports.inMessage message.typeName
  rw [violations, ← listed_map, outcome_of_compile hcompile, listed_of_found hfound, hlisted]
  exact or_iff_left fun ⟨_, _, _, hdescends, _⟩ => hno _ _ _ hdescends

/-- What comes of a constraint that does not ask for recursion are violations of it. -/
theorem breaks_of_mem_violations {site : Site} (hown : site.constraint ≠ .recurse true)
    {check : Option Check} (hcompile : site.compile owner = .ok check) {v : Violation}
    (hv : v ∈ site.violations owner visit message) :
    v.messageType = message.typeName ∧ v.kind = site.constraint.kind ∧
      site.Breaks owner message v.path := by
  have hlisted : Violation.Listed (site.violations owner visit message) v.path v.kind :=
    ⟨v, hv, rfl, rfl⟩
  obtain ⟨u, -, rfl⟩ := List.mem_map.mp hv
  exact ⟨rfl, (listed_violations_iff hown hcompile).mp hlisted⟩

/-- What comes of a constraint that asks for recursion are blocks, one for each nested message. -/
theorem violations_recurse (hne : ∀ nestedType nested, visit nestedType nested ≠ .violations [])
    {schema : FieldSchema} {check : Option Check}
    (hcompile : (Site.field schema (.recurse true)).compile owner = .ok check)
    (hfound : ((Site.field schema (.recurse true)).outcome owner visit message).found =
      .ok ((Site.field schema (.recurse true)).outcome owner visit message).listed) :
    ∃ nestedType, schema.messageType? = some nestedType ∧
      (∀ entry ∈ Check.nestedMessages schema.field message,
        (visit nestedType entry.2).found = .ok (visit nestedType entry.2).listed) ∧
      (Site.field schema (.recurse true)).violations owner visit message =
        (Check.nestedMessages schema.field message).flatMap fun entry =>
          Violation.block message.typeName (.field schema.name :: entry.1)
            (visit nestedType entry.2).listed := by
  have hcheck := hcompile
  simp only [compile, FieldSchema.compile] at hcheck
  split at hcheck
  case h_2 => cases hcheck
  case h_1 nestedType htype =>
    obtain rfl := Except.ok.inj hcheck
    rw [violations, outcome_of_compile hcompile]
    rw [outcome_of_compile hcompile] at hfound
    have hgather : Check.collected visit message (some (.recurse schema.field nestedType)) =
        gather .collect (fun entry => Check.compose schema.field.name entry.1
          (visit nestedType entry.2)) (Check.nestedMessages schema.field message) := rfl
    rw [hgather] at hfound ⊢
    obtain ⟨hall, hlisted⟩ := found_gather_eq_ok hfound
    refine ⟨nestedType, htype, fun entry hentry => ?_, ?_⟩
    · have hentryFound := hall entry hentry
      cases hvisit : visit nestedType entry.2 with
      | failure cause =>
        rw [hvisit] at hentryFound
        cases hentryFound
      | pass => rfl
      | violations ws => rfl
    · rw [hlisted, List.map_flatMap]
      simp only [Check.listed_compose (hne _ _)]
      rfl

end Site

namespace Compiled

variable {owner : MessageSchema} {sites : List Site}

/-- Every constraint of a type that compiles is compiled. -/
theorem exists_compile_of_mem (herror : (ofSites owner sites).error? = none) {site : Site}
    (hsite : site ∈ sites) : ∃ check, site.compile owner = .ok check := by
  induction sites with
  | nil => cases hsite
  | cons first rest ih =>
    unfold ofSites at herror
    cases hcompile : first.compile owner with
    | error cause =>
      rw [hcompile] at herror
      cases herror
    | ok check =>
      rw [hcompile] at herror
      rcases List.mem_cons.mp hsite with rfl | hrest
      · exact ⟨check, hcompile⟩
      · exact ih herror hrest

/-- The checks of a type that compiles come to what its sites come to. -/
theorem gather_ofSites (herror : (ofSites owner sites).error? = none)
    (visit : String → Message → Outcome) (message : Message) :
    gather .collect (fun check => check.outcome .collect visit message)
        (ofSites owner sites).checks =
      gather .collect (Site.outcome owner visit message) sites := by
  induction sites with
  | nil => rfl
  | cons site rest ih =>
    unfold ofSites at herror ⊢
    cases hcompile : site.compile owner with
    | error cause =>
      rw [hcompile] at herror
      cases herror
    | ok check =>
      rw [hcompile] at herror
      show gather _ _ (check.toList ++ (ofSites owner rest).checks) = _
      rw [Check.gather_toList_append, ih herror, gather_cons, Site.outcome_of_compile hcompile]

end Compiled

/-- A message that does not fail is of a type that has checks. -/
theorem CheckTable.exists_checks_of_found {table : CheckTable} {mode : Reporting}
    {limit levels : Nat} {typeName : String} {message : Message} {vs : List Violation}
    (h : (table.evaluate mode limit levels typeName message).found = .ok vs) :
    ∃ checks, table typeName = .ok checks := by
  cases hchecks : table typeName with
  | ok checks => exact ⟨checks, rfl⟩
  | error cause => cases levels <;> (rw [evaluate, judge, hchecks] at h; cases h)

/-- On each level, evaluation judges by what nested messages come to.  None of them has an error
without violations, and what they come to, unless they fail, they come to on some level as well. -/
theorem CheckTable.exists_visit (table : CheckTable) (limit levels : Nat) :
    ∃ visit : String → Message → Outcome,
      (∀ nestedType nested, visit nestedType nested ≠ .violations []) ∧
      (∀ nestedType nested vs, (visit nestedType nested).found = .ok vs →
        ∃ below, (table.evaluate .collect limit below nestedType nested).found = .ok vs) ∧
      table.evaluate .collect limit levels = table.judge .collect visit := by
  cases levels with
  | zero =>
    refine ⟨fun _ nested => .failure (.tooDeep limit nested.typeName), fun _ _ h => ?_,
      fun _ _ _ h => ?_, rfl⟩
    · cases h
    · cases h
  | succ below =>
    refine ⟨table.evaluate .collect limit below, fun nestedType nested => ?_,
      fun _ _ _ h => ⟨below, h⟩, rfl⟩
    exact (table.shortens_evaluate limit below nestedType nested).ne_violations_nil.1

/-- **What is collected from a message comes site by site.**  Nothing fails, and the violations of
the sites follow each other, as violations of the message. -/
theorem Sources.violations_judge {sources : Sources} {pool : Nat}
    {visit : String → Message → Outcome} {typeName : String} {message : Message}
    {vs : List Violation}
    (h : ((sources.checksAt pool).judge .collect visit typeName message).found = .ok vs) :
    ∃ schema, sources.schemaAt pool typeName = .ok schema ∧
      (∀ site ∈ schema.sites, (∃ check, site.compile schema = .ok check) ∧
        (site.outcome schema visit message).found =
          .ok (site.outcome schema visit message).listed) ∧
      vs = schema.sites.flatMap (Site.violations schema visit message) := by
  cases hchecks : sources.checksAt pool typeName with
  | error cause =>
    rw [CheckTable.judge, hchecks] at h
    cases h
  | ok checks =>
    obtain ⟨schema, hschema, herror, rfl⟩ := exists_schemaAt hchecks
    rw [CheckTable.judge, hchecks] at h
    simp only [Compiled.gather_ofSites herror, found_map] at h
    obtain ⟨us, hgather, rfl⟩ := map_eq_ok_iff.mp h
    obtain ⟨hall, rfl⟩ := found_gather_eq_ok hgather
    refine ⟨schema, hschema, fun site hsite => ⟨?_, hall site hsite⟩, ?_⟩
    · exact Compiled.exists_compile_of_mem herror hsite
    · rw [List.map_flatMap]
      rfl

/-! ## Validators over one pool -/

namespace Validator

variable {validator : Validator} {message : Message} {reporting : Reporting} {depth pool : Nat}

/-- A settled validator that has, or would find, the checks of a type puts a message of this type to
the checks that the types have by themselves. -/
theorem Settled.report_eq (h : validator.Settled pool)
    (hserves : validator.Serves pool message.typeName) :
    validator.report reporting depth pool message =
      (validator.sources.checksAt pool).evaluate reporting depth depth message.typeName message :=
  @Settled.validate_eq pool { validator with manner := ⟨reporting, depth⟩ } h message hserves []

/-- A message that does not fail is of a type whose checks the validator has, or would find. -/
theorem serves_of_found {vs : List Violation}
    (h : (validator.report reporting depth pool message).found = .ok vs) :
    validator.Serves pool message.typeName := by
  cases hlazy : validator.isLazy with
  | true => exact Or.inl hlazy
  | false =>
    have hstore : (validator.storeFor pool message).compiled = validator.store.compiled := by
      simp only [storeFor, validate, load, hlazy]
      rfl
    refine Or.inr fun _ => ?_
    rw [report_eq_evaluate] at h
    obtain ⟨checks, hchecks⟩ := CheckTable.exists_checks_of_found h
    unfold Store.checks at hchecks
    rw [hstore] at hchecks
    cases hfind : validator.store.compiled.find? message.typeName with
    | none =>
      rw [hfind] at hchecks
      cases hchecks
    | some compiled => exact Option.isSome_iff_exists.mpr ⟨compiled, hfind⟩

end Validator

end MessageConstraints
