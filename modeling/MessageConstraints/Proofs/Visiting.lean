import Mathlib.Tactic.Common
import MessageConstraints.Proofs.Calls
import MessageConstraints.Proofs.Collecting
import MessageConstraints.Proofs.Failing

/-!
# What compiled types visit

The checks of a type that compiles are those of its constraints (`Compiled.mem_checks_ofSites`), so
the nested messages that they visit are those that lie in fields which ask for recursion
(`Compiled.visits_iff`).  Which schema a type name stands for is told by a store, whatever pools it
was filled from (`Store.visits_iff_descends`), or by the sources, if there is only one pool
(`Sources.visits_iff_descends`).
-/

namespace MessageConstraints

/-! ## The checks of a schema -/

namespace FieldSchema

variable {schema : FieldSchema} {owner : MessageSchema} {constraint : Constraint}
  {field : Field} {nestedType : String}

theorem compilePattern_ne_recurse (rule : PatternRule) :
    (schema.compilePattern rule).map some ≠ .ok (some (.recurse field nestedType)) := by
  intro h
  obtain ⟨check, hcheck, heq⟩ := map_eq_ok_iff.mp h
  obtain rfl := Option.some.inj heq
  unfold compilePattern at hcheck
  repeat' split at hcheck
  all_goals cases hcheck

theorem compileNumber_ne_recurse (kind : ConstraintKind)
    (read : {α : Type} → [Measure α] → Except CompileError (NumberRule α)) :
    (schema.compileNumber kind read).map some ≠ .ok (some (.recurse field nestedType)) := by
  intro h
  obtain ⟨check, hcheck, heq⟩ := map_eq_ok_iff.mp h
  obtain rfl := Option.some.inj heq
  unfold compileNumber at hcheck
  split at hcheck
  case h_5 => cases hcheck
  all_goals
    obtain ⟨rule, -, hrule⟩ := map_eq_ok_iff.mp hcheck
    cases hrule

/-- A check descends into nested messages only if its constraint asks for recursion. -/
theorem compile_eq_recurse_iff :
    schema.compile owner constraint = .ok (some (.recurse field nestedType)) ↔
      constraint = .recurse true ∧ schema.messageType? = some nestedType ∧
        field = schema.field := by
  constructor
  · intro h
    cases constraint with
    | recurse on =>
      cases on with
      | false => cases h
      | true =>
        simp only [compile] at h
        split at h
        case h_1 nested hnested =>
          cases h
          exact ⟨rfl, hnested, rfl⟩
        case h_2 => cases h
    | pattern rule => exact absurd h (compilePattern_ne_recurse rule)
    | min rule => exact absurd h (compileNumber_ne_recurse _ _)
    | max rule => exact absurd h (compileNumber_ne_recurse _ _)
    | range source => exact absurd h (compileNumber_ne_recurse _ _)
    | required on => cases on <;> cases h
    | distinct on =>
      cases on with
      | false => cases h
      | true =>
        simp only [compile] at h
        split at h <;> cases h
    | dependency rule =>
      simp only [compile] at h
      split at h <;> cases h
    | choice rule => cases h
    | combination source => cases h
  · rintro ⟨rfl, htype, rfl⟩
    simp only [compile, htype]

end FieldSchema

theorem Site.compile_eq_recurse_iff {owner : MessageSchema} {site : Site} {field : Field}
    {nestedType : String} :
    site.compile owner = .ok (some (.recurse field nestedType)) ↔
      ∃ schema, site = .field schema (.recurse true) ∧ schema.messageType? = some nestedType ∧
        field = schema.field := by
  cases site with
  | field schema constraint =>
    rw [compile, FieldSchema.compile_eq_recurse_iff]
    constructor
    · rintro ⟨rfl, htype, rfl⟩
      exact ⟨schema, rfl, htype, rfl⟩
    · rintro ⟨other, heq, htype, rfl⟩
      obtain ⟨rfl, rfl⟩ := Site.field.inj heq
      exact ⟨rfl, htype, rfl⟩
  | oneof schema constraint =>
    constructor
    · intro h
      cases constraint with
      | choice rule =>
        simp only [compile, OneofSchema.compile] at h
        split at h <;> cases h
      | _ => cases h
    · rintro ⟨_, heq, -⟩
      cases heq
  | message constraint =>
    constructor
    · intro h
      cases constraint with
      | combination source =>
        simp only [compile, MessageSchema.compile, MessageSchema.compileCombination] at h
        repeat' split at h
        all_goals cases h
      | _ => cases h
    · rintro ⟨_, heq, -⟩
      cases heq

/-- A field of a schema asks for recursion, and holds a nested message at a place. -/
def MessageSchema.Descends (schema : MessageSchema) (message : Message) (place : FieldPath)
    (nestedType : String) (nested : Message) : Prop :=
  ∃ field ∈ schema.fields, field.constraints.get? .recurse = some (.recurse true) ∧
    field.messageType? = some nestedType ∧ field.field.Nests message place nested

namespace Compiled

variable {schema : MessageSchema}

/-- The checks up to an inadmissible constraint are checks of constraints. -/
theorem exists_site_of_mem_checks {sites : List Site} {check : Check}
    (h : check ∈ (ofSites schema sites).checks) :
    ∃ site ∈ sites, site.compile schema = .ok (some check) := by
  induction sites with
  | nil => cases h
  | cons site rest ih =>
    unfold ofSites at h
    cases hcompile : site.compile schema with
    | error cause =>
      rw [hcompile] at h
      cases h
    | ok first =>
      rw [hcompile] at h
      rcases List.mem_append.mp h with hfirst | hrest
      · rw [Option.mem_toList.mp hfirst] at hcompile
        exact ⟨site, List.mem_cons_self, hcompile⟩
      · obtain ⟨other, hother, hcheck⟩ := ih hrest
        exact ⟨other, List.mem_cons_of_mem site hother, hcheck⟩

/-- A type that compiles has the checks of all its constraints. -/
theorem mem_checks_ofSites {sites : List Site} (herror : (ofSites schema sites).error? = none)
    {check : Check} :
    check ∈ (ofSites schema sites).checks ↔
      ∃ site ∈ sites, site.compile schema = .ok (some check) := by
  refine ⟨exists_site_of_mem_checks, ?_⟩
  induction sites with
  | nil =>
    rintro ⟨site, hsite, -⟩
    cases hsite
  | cons site rest ih =>
    unfold ofSites at herror ⊢
    rintro ⟨other, hother, hcheck⟩
    cases hcompile : site.compile schema with
    | error cause =>
      rw [hcompile] at herror
      cases herror
    | ok first =>
      rw [hcompile] at herror
      rcases List.mem_cons.mp hother with rfl | hrest
      · obtain rfl : first = some check := Except.ok.inj (hcompile.symm.trans hcheck)
        exact List.mem_append_left _ (Option.mem_toList.mpr rfl)
      · exact List.mem_append_right _ (ih herror ⟨other, hrest, hcheck⟩)

/-- A type that compiles visits the nested messages in the fields that ask for recursion. -/
theorem visits_iff {table : CheckTable} {typeName : String}
    (htable : table typeName = (ofSchema schema).result)
    (herror : (ofSchema schema).error? = none) {message nested : Message} {nestedType : String} :
    table.Visits typeName message nestedType nested ↔
      ∃ place, schema.Descends message place nestedType nested := by
  have hchecks : table typeName = .ok (ofSchema schema).checks := by
    rw [htable]
    exact result_eq_ok_iff.mpr ⟨herror, rfl⟩
  constructor
  · rintro ⟨checks, field, steps, htable', hmem, hnested⟩
    obtain rfl := Except.ok.inj (hchecks.symm.trans htable')
    obtain ⟨site, hsite, hcompile⟩ := (mem_checks_ofSites herror).mp hmem
    obtain ⟨fieldSchema, rfl, htype, rfl⟩ := Site.compile_eq_recurse_iff.mp hcompile
    obtain ⟨-, hfield, hget⟩ := MessageSchema.mem_sites.mp hsite
    exact ⟨_, fieldSchema, hfield, hget, htype, Check.mem_nestedMessages.mp hnested⟩
  · rintro ⟨place, fieldSchema, hfield, hget, htype, hnests⟩
    obtain ⟨steps, rfl⟩ := hnests.place_eq
    have hsite : Site.field fieldSchema (.recurse true) ∈ schema.sites :=
      MessageSchema.mem_sites.mpr ⟨rfl, hfield, hget⟩
    have hcompile : (Site.field fieldSchema (.recurse true)).compile schema =
        .ok (some (.recurse fieldSchema.field nestedType)) :=
      Site.compile_eq_recurse_iff.mpr ⟨fieldSchema, rfl, htype, rfl⟩
    exact ⟨_, fieldSchema.field, steps, hchecks,
      (mem_checks_ofSites herror).mpr ⟨_, hsite, hcompile⟩, Check.mem_nestedMessages.mpr hnests⟩

end Compiled

/-! ## Schemas by name -/

/-- By the schema that a store keeps for a type, a message holds a nested message in a field that
asks for recursion. -/
def Store.Descends (store : Store) (typeName : String) (message : Message) (nestedType : String)
    (nested : Message) : Prop :=
  ∃ placed place, store.schemas.find? typeName = some placed ∧
    placed.schema.Descends message place nestedType nested

/-- A type that compiles visits what the schema descends into that is kept for it. -/
theorem Store.GoesBySchemas.visits_iff_descends {store : Store} (h : store.GoesBySchemas)
    {typeName : String} {checks : List Check} (hchecks : store.checks typeName = .ok checks)
    {message nested : Message} {nestedType : String} :
    CheckTable.Visits store.checks typeName message nestedType nested ↔
      store.Descends typeName message nestedType nested := by
  have hresult := hchecks
  unfold Store.checks at hresult
  cases hfind : store.compiled.find? typeName with
  | none =>
    rw [hfind] at hresult
    cases hresult
  | some compiled =>
    rw [hfind] at hresult
    have herror : compiled.error? = none := (Compiled.result_eq_ok_iff.mp hresult).1
    obtain ⟨placed, hplaced, rfl⟩ := h typeName compiled hfind herror
    have htable : store.checks typeName = (Compiled.ofSchema placed.schema).result := by
      rw [Store.checks, hfind]
    rw [Compiled.visits_iff htable herror]
    constructor
    · rintro ⟨place, hdescends⟩
      exact ⟨placed, place, hplaced, hdescends⟩
    · rintro ⟨other, place, hother, hdescends⟩
      obtain rfl : placed = other := Option.some.inj (hplaced.symm.trans hother)
      exact ⟨place, hdescends⟩

namespace Sources

variable {sources : Sources} {pool : Nat} {typeName nestedType : String}
  {message nested : Message} {place : FieldPath}

theorem descends_iff_schema {schema : MessageSchema}
    (hschema : sources.schemaAt pool typeName = .ok schema) :
    sources.Descends pool typeName message place nestedType nested ↔
      schema.Descends message place nestedType nested := by
  constructor
  · rintro ⟨other, field, hother, hfield, hrest⟩
    obtain rfl : schema = other := Except.ok.inj (hschema.symm.trans hother)
    exact ⟨field, hfield, hrest⟩
  · rintro ⟨field, hfield, hrest⟩
    exact ⟨schema, field, hschema, hfield, hrest⟩

/-- In one pool, a type that compiles visits what its schema descends into. -/
theorem visits_iff_descends {checks : List Check}
    (hchecks : sources.checksAt pool typeName = .ok checks) :
    (sources.checksAt pool).Visits typeName message nestedType nested ↔
      ∃ place, sources.Descends pool typeName message place nestedType nested := by
  obtain ⟨schema, hschema, herror, -⟩ := exists_schemaAt hchecks
  have htable : sources.checksAt pool typeName = (Compiled.ofSchema schema).result := by
    rw [checksAt, compiledAt, hschema]
  rw [Compiled.visits_iff htable herror]
  simp only [descends_iff_schema hschema]

end Sources

/-- If a store was filled from one pool only, its schemas descend where those of the pool do. -/
theorem Store.Faithful.descends_iff {sources : Sources} {pool : Nat} {store : Store}
    (hfaithful : store.Faithful sources pool) (hgoes : store.GoesBySchemas) {typeName : String}
    {checks : List Check} (hchecks : store.checks typeName = .ok checks)
    {message nested : Message} {nestedType : String} :
    store.Descends typeName message nestedType nested ↔
      ∃ place, sources.Descends pool typeName message place nestedType nested := by
  have hcovers : store.Covers sources pool typeName := by
    intro _
    unfold Store.checks at hchecks
    cases hfind : store.compiled.find? typeName with
    | none =>
      rw [hfind] at hchecks
      cases hchecks
    | some compiled => exact Option.isSome_iff_exists.mpr ⟨compiled, hfind⟩
  have hsources : sources.checksAt pool typeName = .ok checks :=
    (hfaithful.checks_eq hcovers).symm.trans hchecks
  rw [← hgoes.visits_iff_descends hchecks, ← Sources.visits_iff_descends hsources]
  simp only [CheckTable.Visits, hsources, hchecks]

end MessageConstraints
