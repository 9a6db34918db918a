import Mathlib.Tactic.Common
import MessageConstraints.Proofs.Compilation
import MessageConstraints.Proofs.Transparency

/-!
# Collecting finds exactly what is broken

A validator that collects all violations has one at a path exactly if something of its kind is
broken there.  The levels of nesting carry the induction (`Sources.reports_evaluate`): on each of
them the checks of a type report what is broken because of its constraints, given that the level
below reports what is broken in the nested messages.
-/

namespace MessageConstraints

open Outcome

/-- Kinds of constraint have different option names. -/
theorem ConstraintKind.optionName_injective {kind kind' : ConstraintKind}
    (h : kind.optionName = kind'.optionName) : kind = kind' := by
  cases kind <;> cases kind' <;> first | rfl | exact absurd h (by decide)

namespace Sources

variable {sources : Sources} {pool : Nat}

/-- Every type that recursion comes upon in a message compiles. -/
def CompilesAlong (sources : Sources) (pool : Nat) (typeName : String) (message : Message) :
    Prop :=
  ∀ levels path innerType inner, sources.Leads pool levels typeName message path innerType inner →
    ∃ checks, sources.checksAt pool innerType = .ok checks

/-- Recursion into a message goes down a number of levels at most. -/
def StaysWithin (sources : Sources) (pool limit : Nat) (typeName : String) (message : Message) :
    Prop :=
  ∀ levels path innerType inner, sources.Leads pool levels typeName message path innerType inner →
    levels ≤ limit

theorem CompilesAlong.inwards {typeName nestedType : String} {message nested : Message}
    {place : FieldPath} (h : sources.CompilesAlong pool typeName message)
    (hdescends : sources.Descends pool typeName message place nestedType nested) :
    sources.CompilesAlong pool nestedType nested :=
  fun _ _ _ _ hleads => h _ _ _ _ (.inwards hdescends hleads)

theorem StaysWithin.inwards {limit : Nat} {typeName nestedType : String}
    {message nested : Message} {place : FieldPath}
    (h : sources.StaysWithin pool (limit + 1) typeName message)
    (hdescends : sources.Descends pool typeName message place nestedType nested) :
    sources.StaysWithin pool limit nestedType nested :=
  fun _ _ _ _ hleads => Nat.le_of_succ_le_succ (h _ _ _ _ (.inwards hdescends hleads))

/-- A type that compiles has a schema, and its checks are those of all constraints of the schema. -/
theorem exists_schemaAt {typeName : String} {checks : List Check}
    (h : sources.checksAt pool typeName = .ok checks) :
    ∃ schema, sources.schemaAt pool typeName = .ok schema ∧
      (Compiled.ofSites schema schema.sites).error? = none ∧
      (Compiled.ofSites schema schema.sites).checks = checks := by
  unfold checksAt compiledAt at h
  cases hschema : sources.schemaAt pool typeName with
  | error cause => rw [hschema] at h; cases h
  | ok schema =>
    rw [hschema] at h
    exact ⟨schema, rfl, Compiled.result_eq_ok_iff.mp h⟩

/-- One level of evaluation reports what is broken in a message if the visit of nested messages
reports what is broken in them. -/
theorem reports_judge {typeName : String} {checks : List Check} {message : Message}
    (hchecks : sources.checksAt pool typeName = .ok checks) {visit : String → Message → Outcome}
    (hvisit : ∀ place nestedType nested,
      sources.Descends pool typeName message place nestedType nested →
        (visit nestedType nested).Reports (sources.Broken pool nestedType nested) ∧
          visit nestedType nested ≠ .violations []) :
    ((sources.checksAt pool).judge .collect visit typeName message).Reports
      (sources.Broken pool typeName message) := by
  obtain ⟨schema, hschema, herror, rfl⟩ := exists_schemaAt hchecks
  have hgather : (gather .collect (fun check => check.outcome .collect visit message)
      (Compiled.ofSites schema schema.sites).checks).Reports fun path kind =>
        ∃ site ∈ schema.sites, site.Broken schema message (sources.Broken pool) path kind :=
    Compiled.reports_ofSites herror fun site hmem place nestedType nested hdescends =>
      hvisit place nestedType nested ((descends_iff_sites hschema).mpr ⟨site, hmem, hdescends⟩)
  rw [CheckTable.judge, hchecks]
  exact (hgather.inMessage message.typeName).congr fun path kind =>
    (broken_iff_sites hschema).symm

/-- **Evaluation reports exactly what is broken.**  Every message whose types compile, and into
which recursion goes no deeper than there are levels, comes to violations of all that is broken in
it and of nothing else. -/
theorem reports_evaluate (limit levels : Nat) {typeName : String} {message : Message}
    (hcompiles : sources.CompilesAlong pool typeName message)
    (hwithin : sources.StaysWithin pool levels typeName message) :
    ((sources.checksAt pool).evaluate .collect limit levels typeName message).Reports
      (sources.Broken pool typeName message) := by
  induction levels generalizing typeName message with
  | zero =>
    obtain ⟨checks, hchecks⟩ := hcompiles _ _ _ _ .here
    refine reports_judge hchecks fun place nestedType nested hdescends => ?_
    -- There is no nested message to visit, or recursion would go down a level.
    exact absurd (hwithin _ _ _ _ (.inwards hdescends .here)) (by omega)
  | succ below ih =>
    obtain ⟨checks, hchecks⟩ := hcompiles _ _ _ _ .here
    refine reports_judge hchecks fun place nestedType nested hdescends => ⟨?_, ?_⟩
    · exact ih (hcompiles.inwards hdescends) (hwithin.inwards hdescends)
    · exact (CheckTable.shortens_evaluate _ limit below nestedType nested).ne_violations_nil.1

end Sources

/-- Every violation of an outcome names the type of the message. -/
theorem CheckTable.messageType_judge {table : CheckTable} {reporting : Reporting}
    {visit : String → Message → Outcome} {typeName : String} {message : Message}
    {vs : List Violation} (h : (table.judge reporting visit typeName message).found = .ok vs) :
    ∀ v ∈ vs, v.messageType = message.typeName := by
  unfold judge at h
  split at h
  · cases h
  · rw [found_map] at h
    obtain ⟨us, -, rfl⟩ := map_eq_ok_iff.mp h
    intro v hv
    obtain ⟨u, -, rfl⟩ := List.mem_map.mp hv
    rfl

/-! ## A type that is nested in itself -/

namespace Sample

/-- A validator for nodes. -/
def validator : Validator := .withOptions catalog .written [rules]

/-- Recursion goes from a node to its child, and to nothing else. -/
theorem stored_of_descends {message nested : Message} {place : FieldPath} {nestedType : String}
    (h : validator.sources.Descends 0 "Node" message place nestedType nested) :
    nestedType = "Node" ∧ message.stored? 2 = some nested.toValue := by
  obtain ⟨schema, field, hschema, hfield, hget, htype, hnests⟩ := h
  obtain rfl := Except.ok.inj hschema
  rcases List.mem_cons.mp hfield with rfl | hfield
  · cases hget
  · obtain rfl := List.mem_singleton.mp hfield
    cases hnests with
    | single _ hstored => exact ⟨(Option.some.inj htype).symm, hstored⟩
    | element hshape => cases hshape
    | entry hshape => cases hshape

/-- The nameless node has one child, which is empty. -/
theorem eq_of_descends_nameless {nested : Message} {place : FieldPath} {nestedType : String}
    (h : validator.sources.Descends 0 "Node" nameless place nestedType nested) :
    nestedType = "Node" ∧ nested = ⟨"Node", []⟩ := by
  obtain ⟨rfl, hstored⟩ := stored_of_descends h
  obtain ⟨htype, hfields⟩ := Value.message.inj (Option.some.inj hstored)
  exact ⟨rfl, (congrArg₂ Message.mk htype hfields).symm⟩

/-- An empty node has no child. -/
theorem not_descends_empty {nested : Message} {place : FieldPath} {nestedType : String} :
    ¬ validator.sources.Descends 0 "Node" ⟨"Node", []⟩ place nestedType nested := by
  intro h
  cases (stored_of_descends h).2

theorem leads_nameless {levels : Nat} {path : FieldPath} {innerType : String} {inner : Message}
    (h : validator.sources.Leads 0 levels "Node" nameless path innerType inner) :
    innerType = "Node" ∧ levels ≤ 1 := by
  cases h with
  | here => exact ⟨rfl, Nat.zero_le 1⟩
  | inwards hchild hinner =>
    obtain ⟨rfl, rfl⟩ := eq_of_descends_nameless hchild
    cases hinner with
    | here => exact ⟨rfl, Nat.le_refl 1⟩
    | inwards hnone => exact absurd hnone not_descends_empty

theorem descends_child :
    validator.sources.Descends 0 "Node" nameless [.field "child"] "Node" ⟨"Node", []⟩ :=
  ⟨_, _, rfl, List.mem_cons_of_mem _ List.mem_cons_self, rfl, rfl, .single rfl rfl⟩

/-- The child lacks its name. -/
theorem broken_nameless :
    validator.sources.Broken 0 "Node" nameless [.field "child", .field "name"] .required := by
  have hschema : validator.sources.schemaAt 0 "Node" = .ok _ := rfl
  have hbreaks : validator.sources.Breaks 0 "Node" ⟨"Node", []⟩ [.field "name"]
      (Constraint.required true).kind :=
    .own hschema (.field List.mem_cons_self rfl ⟨rfl, rfl, rfl⟩)
  exact hbreaks.broken.inwards descends_child

end Sample

namespace Validator

/-- **Collecting is sound and complete.**  A validator over one pool that reports all violations is
asked for those of a message, of a type that it compiles on demand or has compiled before.  Provided
that all types that recursion comes upon in the message compile, and that it stays within the depth
that the validator goes down to, the answer is a list that has a violation with a path and a label
exactly if a constraint with this label is broken there: in the message, or in a nested message that
a path through fields with recursion leads to.  All of them name the type of the message itself. -/
theorem violations_iff_broken {catalog : Catalog} {options : List ValidatorOption}
    {history : List Request} {validator : Validator}
    (h : validator.Arises catalog options history)
    (hcollect : validator.manner.reporting = .collect) {message : Message}
    (hserves : validator.Serves 0 message.typeName)
    (hcompiles : validator.sources.CompilesAlong 0 message.typeName message)
    (hwithin : validator.sources.StaysWithin 0 validator.manner.maxDepth message.typeName
      message) :
    ∃ vs, (validator.violations 0 message).2 = .ok vs ∧
      (∀ path kind, (∃ v ∈ vs, v.path = path ∧ v.rule = kind.optionName) ↔
        validator.sources.Broken 0 message.typeName message path kind) ∧
      ∀ v ∈ vs, v.messageType = message.typeName := by
  have houtcome : (validator.violations 0 message).2 =
      (validator.sources.outcome validator.manner 0 message).found :=
    congrArg found (h.settled.validate_eq message hserves [])
  obtain ⟨vs, hfound, hlisted⟩ :=
    Sources.reports_evaluate validator.manner.maxDepth validator.manner.maxDepth hcompiles hwithin
  rw [houtcome, Sources.outcome, hcollect]
  refine ⟨vs, hfound, fun path kind => ?_, ?_⟩
  · rw [← hlisted]
    constructor
    · rintro ⟨v, hv, hpath, hrule⟩
      exact ⟨v, hv, hpath, ConstraintKind.optionName_injective hrule⟩
    · rintro ⟨v, hv, hpath, rfl⟩
      exact ⟨v, hv, hpath, rfl⟩
  · cases hdepth : validator.manner.maxDepth with
    | zero => rw [hdepth] at hfound; exact CheckTable.messageType_judge hfound
    | succ below => rw [hdepth] at hfound; exact CheckTable.messageType_judge hfound

/-- The name that the child of a node lacks is reported. -/
theorem violations_iff_broken_nameless :
    ∃ vs, (Sample.validator.violations 0 Sample.nameless).2 = .ok vs ∧
      ∃ v ∈ vs, v.path = [.field "child", .field "name"] ∧ v.rule = "required" := by
  have harises : Sample.validator.Arises Sample.catalog [Sample.rules] [] := ⟨by simp, _, rfl⟩
  have hcompiles :
      Sample.validator.sources.CompilesAlong 0 Sample.nameless.typeName Sample.nameless := by
    intro levels path innerType inner hleads
    obtain ⟨rfl, -⟩ := Sample.leads_nameless hleads
    exact ⟨_, rfl⟩
  have hwithin : Sample.validator.sources.StaysWithin 0 64 "Node" Sample.nameless :=
    fun _ _ _ _ hleads => Nat.le_trans (Sample.leads_nameless hleads).2 (by decide)
  obtain ⟨vs, hvs, hiff, -⟩ :=
    violations_iff_broken harises rfl (Or.inl rfl) hcompiles hwithin
  exact ⟨vs, hvs, (hiff _ .required).mpr Sample.broken_nameless⟩

end Validator

end MessageConstraints
