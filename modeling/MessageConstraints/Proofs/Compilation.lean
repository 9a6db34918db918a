import Mathlib.Tactic.Common
import MessageConstraints.Proofs.Reporting

/-!
# What compiled constraints report

A constraint is compiled, where it is attached, to a check that reports exactly where it is broken
(`Site.reports_compile`), and the constraints of a schema to checks that together report what is
broken in a message (`Compiled.reports_ofSites`).  Constraints that demand nothing are compiled to
no check, and are never broken.
-/

namespace MessageConstraints

open Outcome

/-- A mapped result comes from a result. -/
theorem map_eq_ok_iff {ε α β : Type} {f : α → β} {result : Except ε α} {b : β} :
    result.map f = .ok b ↔ ∃ a, result = .ok a ∧ f a = b := by
  cases result <;> simp [Except.map]

/-! ## What is broken at a site -/

namespace Site

/-- The constraint of a site. -/
def constraint : Site → Constraint
  | field _ constraint => constraint
  | oneof _ constraint => constraint
  | message constraint => constraint

/-- A message breaks the constraint of a site at a place. -/
def Breaks (owner : MessageSchema) (message : Message) (place : FieldPath) : Site → Prop
  | field schema constraint => schema.Breaks owner message constraint place
  | oneof schema constraint => schema.Breaks message constraint place
  | .message constraint => owner.BreaksWhole message constraint place

/-- The constraint of a site asks for recursion into a nested message at a place. -/
def Descends (message : Message) (place : FieldPath) (nestedType : String) (nested : Message) :
    Site → Prop
  | field schema constraint => constraint = .recurse true ∧
    schema.messageType? = some nestedType ∧ schema.field.Nests message place nested
  | _ => False

/-- What is broken because of the constraint of a site, given what is broken in nested messages. -/
def Broken (owner : MessageSchema) (message : Message)
    (inner : String → Message → FieldPath → ConstraintKind → Prop) (site : Site)
    (path : FieldPath) (kind : ConstraintKind) : Prop :=
  (kind = site.constraint.kind ∧ site.Breaks owner message path) ∨
    ∃ place nestedType nested, site.Descends message place nestedType nested ∧
      SeenFrom place (inner nestedType nested) path kind

end Site

/-- What a message comes to under the check that a constraint is compiled to, if there is one. -/
def Check.collected (visit : String → Message → Outcome) (message : Message)
    (check : Option Check) : Outcome :=
  check.elim .pass fun check => check.outcome .collect visit message

/-- What comes of the check of a constraint is joined to what comes of the other checks. -/
theorem Check.gather_toList_append (visit : String → Message → Outcome) (message : Message)
    (check : Option Check) (rest : List Check) :
    gather .collect (fun check => check.outcome .collect visit message) (check.toList ++ rest) =
      (Check.collected visit message check).followedBy .collect
        (gather .collect (fun check => check.outcome .collect visit message) rest) := by
  cases check with
  | none => rfl
  | some check => exact gather_cons ..

/-! ## Number rules -/

/-- A number rule is of a constraint if it tests for just what the constraint excludes. -/
structure NumberRule.Tests {α : Type} [Measure α] (rule : NumberRule α) (field : String)
    (constraint : Constraint) : Prop where
  kind_eq : rule.test.kind = constraint.kind
  admits_iff : ∀ x, rule.test.admits x = false ↔ constraint.Excludes field x

namespace NumberRule

variable {α : Type} [Measure α] {field : String}

theorem tests_ofMin {bound : BoundRule} {rule : NumberRule α} (h : ofMin field bound = .ok rule) :
    rule.Tests field (.min bound) := by
  obtain ⟨value, hread, rfl⟩ := map_eq_ok_iff.mp h
  exact ⟨rfl, fun x => by simp [Constraint.Excludes, NumberTest.admits, hread]⟩

theorem tests_ofMax {bound : BoundRule} {rule : NumberRule α} (h : ofMax field bound = .ok rule) :
    rule.Tests field (.max bound) := by
  obtain ⟨value, hread, rfl⟩ := map_eq_ok_iff.mp h
  exact ⟨rfl, fun x => by simp [Constraint.Excludes, NumberTest.admits, hread]⟩

theorem tests_ofRange {source : String} {rule : NumberRule α}
    (h : ofRange field source = .ok rule) : rule.Tests field (.range source) := by
  unfold ofRange at h
  cases hread : (Interval.read source : Except RangeError (Interval α)) with
  | error cause => rw [hread] at h; cases h
  | ok interval =>
    rw [hread] at h
    obtain rfl := Except.ok.inj h
    exact ⟨rfl, fun x => by simp [Constraint.Excludes, NumberTest.admits, hread]⟩

end NumberRule

namespace FieldSchema

variable {schema : FieldSchema} {owner : MessageSchema} {constraint : Constraint}

/-- A number rule in the family of a field reports the values out of its bounds. -/
theorem reports_number {family : NumberFamily} (hfamily : schema.numberFamily? = some family)
    {rule : NumberRule family.Number} (htests : rule.Tests schema.name constraint)
    (value : Value) :
    (rule.check schema.name value).Reports fun path kind =>
      path = [] ∧ kind = constraint.kind ∧ schema.OutOfBounds constraint value := by
  refine (Check.reports_numberRule rule schema.name value).congr fun path kind => ?_
  rw [htests.kind_eq]
  refine and_congr_right fun _ => and_congr_right fun _ => ?_
  simp only [htests.admits_iff]
  constructor
  · rintro ⟨x, hvalue, hexcludes⟩
    exact ⟨family, hfamily, x, hvalue, hexcludes⟩
  · rintro ⟨other, hother, hbad⟩
    obtain rfl : family = other := Option.some.inj (hfamily.symm.trans hother)
    exact hbad

/-- The check of a number rule reports the values out of the bounds of its constraint. -/
theorem reports_compileNumber {kind : ConstraintKind}
    {read : {α : Type} → [Measure α] → Except CompileError (NumberRule α)}
    (hread : ∀ {α : Type} [Measure α] {rule : NumberRule α}, read = .ok rule →
      rule.Tests schema.name constraint)
    {check : Check} (h : schema.compileNumber kind read = .ok check)
    (visit : String → Message → Outcome) (message : Message) :
    (check.outcome .collect visit message).Reports fun path kind => kind = constraint.kind ∧
      ∃ value, message.ValueAt schema.field path value ∧ schema.OutOfBounds constraint value := by
  unfold compileNumber at h
  split at h
  case h_1 hfamily =>
    obtain ⟨rule, hrule, rfl⟩ := map_eq_ok_iff.mp h
    exact Check.reports_each (reports_number hfamily (hread hrule)) schema.field message
  case h_2 hfamily =>
    obtain ⟨rule, hrule, rfl⟩ := map_eq_ok_iff.mp h
    exact Check.reports_each (reports_number hfamily (hread hrule)) schema.field message
  case h_3 hfamily =>
    obtain ⟨rule, hrule, rfl⟩ := map_eq_ok_iff.mp h
    exact Check.reports_each (reports_number hfamily (hread hrule)) schema.field message
  case h_4 hfamily =>
    obtain ⟨rule, hrule, rfl⟩ := map_eq_ok_iff.mp h
    exact Check.reports_each (reports_number hfamily (hread hrule)) schema.field message
  case h_5 => cases h

/-- The check of a pattern is one of its field. -/
theorem exists_pattern_of_compilePattern {rule : PatternRule} {check : Check}
    (h : schema.compilePattern rule = .ok check) :
    ∃ regex, check = .pattern schema.field regex rule.message := by
  unfold compilePattern at h
  split at h
  · cases h
  · split at h
    · cases h
    · split at h
      · cases h
      · split at h
        · exact ⟨_, (Except.ok.inj h).symm⟩
        · cases h

/-- The check of a pattern reports the texts in which the pattern is not found. -/
theorem reports_compilePattern {rule : PatternRule} {check : Check}
    (h : schema.compilePattern rule = .ok check) (visit : String → Message → Outcome)
    (message : Message) :
    (check.outcome .collect visit message).Reports fun path kind => kind = .pattern ∧
      ∃ value, message.ValueAt schema.field path value ∧ Mismatches rule value := by
  unfold compilePattern at h
  split at h
  · cases h
  · split at h
    · cases h
    · split at h
      · cases h
      case h_2 mode hmode =>
        split at h
        case h_1 regex hregex =>
          obtain rfl := Except.ok.inj h
          exact Check.reports_each (Check.reports_pattern ⟨mode, hmode, hregex⟩ schema.field.name)
            schema.field message
        case h_2 => cases h

/-- The check of a rule on duplicates reports the elements that equal an earlier one. -/
theorem reports_distinct (visit : String → Message → Outcome) (message : Message) :
    ((Check.distinct schema.field).outcome .collect visit message).Reports fun path kind =>
      kind = .distinct ∧ schema.Breaks owner message (.distinct true) path := by
  refine ((Check.reports_distinct schema.name _).below [.field schema.name]).congr
    fun path kind => ?_
  constructor
  · rintro ⟨_, rfl, rfl, items, first, index, earlier, item, hlist, hfirst, hitem, hlt, hdup, rfl⟩
    exact ⟨rfl, rfl, items, first, index, earlier, item, hlist, hfirst, hitem, hlt, hdup, rfl⟩
  · rintro ⟨rfl, -, items, first, index, earlier, item, hlist, hfirst, hitem, hlt, hdup, rfl⟩
    exact ⟨_, rfl, rfl, items, first, index, earlier, item, hlist, hfirst, hitem, hlt, hdup, rfl⟩

/-- The check that a field is set reports the field if it is not. -/
theorem reports_required (visit : String → Message → Outcome) (message : Message) :
    ((Check.required schema.field).outcome .collect visit message).Reports fun path kind =>
      kind = .required ∧ schema.Breaks owner message (.required true) path := by
  refine (reports_demand _ _).congr fun path kind => ?_
  constructor
  · rintro ⟨hunset, rfl, rfl⟩
    exact ⟨rfl, rfl, rfl, hunset⟩
  · rintro ⟨rfl, -, rfl, hunset⟩
    exact ⟨hunset, rfl, rfl⟩

/-- The check of a dependency reports the field if it is set and its partner is not. -/
theorem reports_dependency {rule : DependencyRule} {partner : FieldSchema}
    (hpartner : owner.field? rule.partner = some partner) (visit : String → Message → Outcome)
    (message : Message) :
    ((Check.dependency schema.field partner.field rule.message).outcome .collect visit
      message).Reports fun path kind =>
        kind = .dependency ∧ schema.Breaks owner message (.dependency rule) path := by
  refine (reports_demand _ _).congr fun path kind => ?_
  rw [Bool.or_eq_false_iff, Bool.not_eq_false']
  constructor
  · rintro ⟨⟨hset, hunset⟩, rfl, rfl⟩
    exact ⟨rfl, rfl, hset, partner, hpartner, hunset⟩
  · rintro ⟨rfl, rfl, hset, other, hother, hunset⟩
    obtain rfl : partner = other := Option.some.inj (hpartner.symm.trans hother)
    exact ⟨⟨hset, hunset⟩, rfl, rfl⟩

/-- A constraint on the values of a field is compiled to a check that reports where it is broken,
or to none if it demands nothing. -/
theorem reports_compile_own (hown : constraint ≠ .recurse true) {check : Option Check}
    (h : schema.compile owner constraint = .ok check) (visit : String → Message → Outcome)
    (message : Message) :
    (Check.collected visit message check).Reports fun path kind =>
      kind = constraint.kind ∧ schema.Breaks owner message constraint path := by
  cases constraint with
  | required on =>
    cases on with
    | false =>
      obtain rfl := Except.ok.inj h
      exact reports_pass (by simp [Breaks])
    | true =>
      obtain rfl := Except.ok.inj h
      exact reports_required visit message
  | pattern rule =>
    obtain ⟨check, hcheck, rfl⟩ := map_eq_ok_iff.mp h
    exact reports_compilePattern hcheck visit message
  | min rule =>
    obtain ⟨check, hcheck, rfl⟩ := map_eq_ok_iff.mp h
    exact reports_compileNumber NumberRule.tests_ofMin hcheck visit message
  | max rule =>
    obtain ⟨check, hcheck, rfl⟩ := map_eq_ok_iff.mp h
    exact reports_compileNumber NumberRule.tests_ofMax hcheck visit message
  | range source =>
    obtain ⟨check, hcheck, rfl⟩ := map_eq_ok_iff.mp h
    exact reports_compileNumber NumberRule.tests_ofRange hcheck visit message
  | distinct on =>
    cases on with
    | false =>
      obtain rfl := Except.ok.inj h
      exact reports_pass (by simp [Breaks])
    | true =>
      simp only [compile] at h
      split at h
      · cases h
      · obtain rfl := Except.ok.inj h
        exact reports_distinct visit message
  | dependency rule =>
    simp only [compile] at h
    split at h
    case h_1 partner hpartner =>
      obtain rfl := Except.ok.inj h
      exact reports_dependency hpartner visit message
    case h_2 => cases h
  | recurse on =>
    cases on with
    | false =>
      obtain rfl := Except.ok.inj h
      exact reports_pass (by simp [Breaks])
    | true => exact absurd rfl hown
  | choice rule => cases h
  | combination source => cases h

/-- A constraint that asks for recursion is compiled to a check that reports what is broken in the
nested messages. -/
theorem reports_compile_recurse {check : Option Check}
    (h : schema.compile owner (.recurse true) = .ok check)
    {visit : String → Message → Outcome}
    {inner : String → Message → FieldPath → ConstraintKind → Prop} {message : Message}
    (hvisit : ∀ place nestedType nested,
      (Site.field schema (.recurse true)).Descends message place nestedType nested →
        (visit nestedType nested).Reports (inner nestedType nested) ∧
          visit nestedType nested ≠ .violations []) :
    (Check.collected visit message check).Reports fun path kind => ∃ place nestedType nested,
      (Site.field schema (.recurse true)).Descends message place nestedType nested ∧
        SeenFrom place (inner nestedType nested) path kind := by
  simp only [compile] at h
  split at h
  case h_2 => cases h
  case h_1 nestedType htype =>
    obtain rfl := Except.ok.inj h
    have hgather : ((Check.recurse schema.field nestedType).outcome .collect visit
        message).Reports fun path kind =>
          ∃ entry ∈ Check.nestedMessages schema.field message,
            SeenFrom (.field schema.field.name :: entry.1) (inner nestedType entry.2) path
              kind := by
      refine reports_gather fun entry hmem => ?_
      have hnests := Check.mem_nestedMessages.mp hmem
      obtain ⟨hreports, hne⟩ := hvisit _ nestedType entry.2 ⟨rfl, htype, hnests⟩
      exact reports_compose schema.field.name entry.1 hreports hne
    refine hgather.congr fun path kind => ?_
    constructor
    · rintro ⟨⟨steps, nested⟩, hmem, hseen⟩
      exact ⟨_, nestedType, nested, ⟨rfl, htype, Check.mem_nestedMessages.mp hmem⟩, hseen⟩
    · rintro ⟨place, other, nested, ⟨-, hother, hnests⟩, hseen⟩
      obtain rfl : nestedType = other := Option.some.inj (htype.symm.trans hother)
      obtain ⟨steps, rfl⟩ := hnests.place_eq
      exact ⟨(steps, nested), Check.mem_nestedMessages.mpr hnests, hseen⟩

end FieldSchema

/-! ## Constraints on oneofs and messages -/

theorem OneofSchema.reports_compile {schema : OneofSchema} {constraint : Constraint}
    {check : Option Check} (h : schema.compile constraint = .ok check)
    (visit : String → Message → Outcome) (message : Message) :
    (Check.collected visit message check).Reports fun path kind =>
      kind = constraint.kind ∧ schema.Breaks message constraint path := by
  cases constraint with
  | choice rule =>
    obtain rfl := Except.ok.inj h
    cases hrequired : rule.required with
    | false => exact reports_pass (by simp [Breaks, hrequired])
    | true =>
      refine (reports_demand _ _).congr fun path kind => ?_
      rw [List.any_eq_false]
      constructor
      · rintro ⟨hnone, rfl, rfl⟩
        exact ⟨rfl, hrequired, rfl, fun number hmem => by simpa using hnone number hmem⟩
      · rintro ⟨rfl, -, rfl, hnone⟩
        exact ⟨fun number hmem => by simp [hnone number hmem], rfl, rfl⟩
  | _ =>
    obtain rfl := Except.ok.inj h
    exact reports_pass (by simp [Breaks])

namespace MessageSchema

variable {schema : MessageSchema}

/-- The fields that a combination is compiled with are those of the schema. -/
theorem any_find?_fields (message : Message) (name : String) :
    ((schema.fields.map (·.field)).find? (·.name = name)).any message.isSet =
      schema.isSet message name := by
  rw [List.find?_map, Option.any_map]
  rfl

theorem reports_compile {constraint : Constraint} {check : Option Check}
    (h : schema.compile constraint = .ok check) (visit : String → Message → Outcome)
    (message : Message) :
    (Check.collected visit message check).Reports fun path kind =>
      kind = constraint.kind ∧ schema.BreaksWhole message constraint path := by
  cases constraint with
  | combination source =>
    simp only [compile, compileCombination] at h
    split at h
    · cases h
    case h_2 expression hparse =>
      split at h
      · cases h
      · obtain rfl := Except.ok.inj h
        refine (reports_demand _ _).congr fun path kind => ?_
        simp only [any_find?_fields]
        constructor
        · rintro ⟨hfalse, rfl, rfl⟩
          exact ⟨rfl, rfl, expression, hparse, hfalse⟩
        · rintro ⟨rfl, rfl, other, hother, hfalse⟩
          obtain rfl : expression = other := Option.some.inj (hparse.symm.trans hother)
          exact ⟨hfalse, rfl, rfl⟩
  | _ =>
    obtain rfl := Except.ok.inj h
    exact reports_pass (by simp [BreaksWhole])

end MessageSchema

/-! ## The constraints of a schema -/

/-- **A compiled constraint reports where it is broken.** -/
theorem Site.reports_compile {owner : MessageSchema} {site : Site} {check : Option Check}
    (h : site.compile owner = .ok check) {visit : String → Message → Outcome}
    {inner : String → Message → FieldPath → ConstraintKind → Prop} {message : Message}
    (hvisit : ∀ place nestedType nested, site.Descends message place nestedType nested →
      (visit nestedType nested).Reports (inner nestedType nested) ∧
        visit nestedType nested ≠ .violations []) :
    (Check.collected visit message check).Reports (site.Broken owner message inner) := by
  cases site with
  | field schema constraint =>
    by_cases hrecurse : constraint = .recurse true
    · subst hrecurse
      have hcompile : schema.compile owner (.recurse true) = .ok check := h
      refine (FieldSchema.reports_compile_recurse hcompile hvisit).congr fun path kind => ?_
      exact (or_iff_right fun hbroken => hbroken.2).symm
    · refine (FieldSchema.reports_compile_own hrecurse h visit message).congr fun path kind => ?_
      refine (or_iff_left ?_).symm
      rintro ⟨place, nestedType, nested, ⟨hyes, -⟩, -⟩
      exact hrecurse hyes
  | oneof schema constraint =>
    refine (OneofSchema.reports_compile h visit message).congr fun path kind => ?_
    exact (or_iff_left fun ⟨_, _, _, hno, _⟩ => hno).symm
  | message constraint =>
    refine (MessageSchema.reports_compile h visit message).congr fun path kind => ?_
    exact (or_iff_left fun ⟨_, _, _, hno, _⟩ => hno).symm

/-- The checks that constraints are compiled to report together what is broken because of any of
them. -/
theorem Compiled.reports_ofSites {owner : MessageSchema} {sites : List Site}
    (h : (ofSites owner sites).error? = none) {visit : String → Message → Outcome}
    {inner : String → Message → FieldPath → ConstraintKind → Prop} {message : Message}
    (hvisit : ∀ site ∈ sites, ∀ place nestedType nested,
      site.Descends message place nestedType nested →
        (visit nestedType nested).Reports (inner nestedType nested) ∧
          visit nestedType nested ≠ .violations []) :
    (gather .collect (fun check => check.outcome .collect visit message)
      (ofSites owner sites).checks).Reports fun path kind =>
        ∃ site ∈ sites, site.Broken owner message inner path kind := by
  induction sites with
  | nil => exact reports_pass (by simp)
  | cons site rest ih =>
    unfold ofSites at h ⊢
    cases hcompile : site.compile owner with
    | error cause => rw [hcompile] at h; cases h
    | ok check =>
      rw [hcompile] at h
      have hfirst := Site.reports_compile hcompile (hvisit site List.mem_cons_self)
      have hrest := ih h fun other hother => hvisit other (List.mem_cons_of_mem site hother)
      show (gather _ _ (check.toList ++ (ofSites owner rest).checks)).Reports _
      rw [Check.gather_toList_append]
      refine (hfirst.followedBy hrest).congr fun path kind => ?_
      simp only [List.mem_cons, or_and_right, exists_or, exists_eq_left]

/-- The element of a site is one of a schema, and has the constraint of the site. -/
def Site.Attached (owner : MessageSchema) : Site → Prop
  | field schema constraint => constraint.kind.target = .field ∧ schema ∈ owner.fields ∧
    schema.constraints.get? constraint.kind = some constraint
  | oneof schema constraint => constraint.kind.target = .oneof ∧ schema ∈ owner.oneofs ∧
    schema.constraints.get? constraint.kind = some constraint
  | message constraint => constraint.kind.target = .message ∧
    owner.constraints.get? constraint.kind = some constraint

namespace MessageSchema

variable {schema : MessageSchema}

/-- The order of evaluation leaves out no constraint and adds none. -/
theorem mem_sites {site : Site} : site ∈ schema.sites ↔ site.Attached schema := by
  constructor
  · intro hmem
    obtain ⟨kind, -, hsite⟩ := List.mem_flatMap.mp hmem
    unfold sitesOf at hsite
    split at hsite
    case h_1 htarget =>
      obtain ⟨field, hfield, hmap⟩ := List.mem_filterMap.mp hsite
      obtain ⟨constraint, hget, rfl⟩ := Option.map_eq_some_iff.mp hmap
      obtain rfl := ConstraintSet.kind_of_get? hget
      exact ⟨htarget, hfield, hget⟩
    case h_2 htarget =>
      obtain ⟨oneof, honeof, hmap⟩ := List.mem_filterMap.mp hsite
      obtain ⟨constraint, hget, rfl⟩ := Option.map_eq_some_iff.mp hmap
      obtain rfl := ConstraintSet.kind_of_get? hget
      exact ⟨htarget, honeof, hget⟩
    case h_3 htarget =>
      obtain ⟨constraint, hget, rfl⟩ := Option.map_eq_some_iff.mp (Option.mem_toList.mp hsite)
      obtain rfl := ConstraintSet.kind_of_get? hget
      exact ⟨htarget, hget⟩
  · intro hattached
    refine List.mem_flatMap.mpr
      ⟨site.constraint.kind, ConstraintKind.mem_evaluationOrder _, ?_⟩
    cases site with
    | field field constraint =>
      obtain ⟨htarget, hfield, hget⟩ := hattached
      simp only [sitesOf, Site.constraint, htarget]
      exact List.mem_filterMap.mpr ⟨field, hfield, by rw [hget]; rfl⟩
    | oneof oneof constraint =>
      obtain ⟨htarget, honeof, hget⟩ := hattached
      simp only [sitesOf, Site.constraint, htarget]
      exact List.mem_filterMap.mpr ⟨oneof, honeof, by rw [hget]; rfl⟩
    | message constraint =>
      obtain ⟨htarget, hget⟩ := hattached
      simp only [sitesOf, Site.constraint, htarget, hget]
      exact List.mem_singleton_self _

/-- A schema is broken at one of its sites. -/
theorem breaks_iff_sites {message : Message} {place : FieldPath} {kind : ConstraintKind} :
    schema.Breaks message place kind ↔
      ∃ site ∈ schema.sites, kind = site.constraint.kind ∧ site.Breaks schema message place := by
  constructor
  · rintro (@⟨field, constraint, _, hfield, hget, hbreaks⟩ |
      @⟨oneof, constraint, _, honeof, hget, hbreaks⟩ | @⟨constraint, _, hget, hbreaks⟩)
    · have hmem : Site.field field constraint ∈ schema.sites :=
        mem_sites.mpr ⟨FieldSchema.Breaks.target_eq hbreaks, hfield, hget⟩
      exact ⟨_, hmem, rfl, hbreaks⟩
    · have hmem : Site.oneof oneof constraint ∈ schema.sites :=
        mem_sites.mpr ⟨OneofSchema.Breaks.target_eq hbreaks, honeof, hget⟩
      exact ⟨_, hmem, rfl, hbreaks⟩
    · have hmem : Site.message constraint ∈ schema.sites :=
        mem_sites.mpr ⟨BreaksWhole.target_eq hbreaks, hget⟩
      exact ⟨_, hmem, rfl, hbreaks⟩
  · rintro ⟨site, hmem, rfl, hbreaks⟩
    have hattached := mem_sites.mp hmem
    cases site with
    | field field constraint => exact .field hattached.2.1 hattached.2.2 hbreaks
    | oneof oneof constraint => exact .oneof hattached.2.1 hattached.2.2 hbreaks
    | message constraint => exact .message hattached.2 hbreaks

end MessageSchema

namespace Sources

variable {sources : Sources} {pool : Nat} {typeName : String} {schema : MessageSchema}
  {message : Message}

/-- Recursion is asked for at the sites of a schema. -/
theorem descends_iff_sites (hschema : sources.schemaAt pool typeName = .ok schema)
    {place : FieldPath} {nestedType : String} {nested : Message} :
    sources.Descends pool typeName message place nestedType nested ↔
      ∃ site ∈ schema.sites, site.Descends message place nestedType nested := by
  constructor
  · rintro ⟨other, field, hother, hfield, hget, htype, hnests⟩
    obtain rfl : schema = other := Except.ok.inj (hschema.symm.trans hother)
    exact ⟨.field field (.recurse true), MessageSchema.mem_sites.mpr ⟨rfl, hfield, hget⟩, rfl,
      htype, hnests⟩
  · rintro ⟨site, hmem, hdescends⟩
    have hattached := MessageSchema.mem_sites.mp hmem
    cases site with
    | field field constraint =>
      obtain ⟨rfl, htype, hnests⟩ := hdescends
      exact ⟨schema, field, hschema, hattached.2.1, hattached.2.2, htype, hnests⟩
    | oneof _ _ => exact hdescends.elim
    | message _ => exact hdescends.elim

/-- What is broken in a message is broken because of a constraint of its schema. -/
theorem broken_iff_sites (hschema : sources.schemaAt pool typeName = .ok schema)
    {path : FieldPath} {kind : ConstraintKind} :
    sources.Broken pool typeName message path kind ↔
      ∃ site ∈ schema.sites, site.Broken schema message (sources.Broken pool) path kind := by
  have hown : (∃ other, sources.schemaAt pool typeName = .ok other ∧
      other.Breaks message path kind) ↔ schema.Breaks message path kind := by
    simp [hschema]
  rw [broken_iff, hown, MessageSchema.breaks_iff_sites]
  simp only [descends_iff_sites hschema]
  constructor
  · rintro (⟨site, hmem, hbreaks⟩ | ⟨place, nestedType, nested, ⟨site, hmem, hdescends⟩, hseen⟩)
    · exact ⟨site, hmem, Or.inl hbreaks⟩
    · exact ⟨site, hmem, Or.inr ⟨place, nestedType, nested, hdescends, hseen⟩⟩
  · rintro ⟨site, hmem, hbreaks | ⟨place, nestedType, nested, hdescends, hseen⟩⟩
    · exact Or.inl ⟨site, hmem, hbreaks⟩
    · exact Or.inr ⟨place, nestedType, nested, ⟨site, hmem, hdescends⟩, hseen⟩

end Sources

end MessageConstraints
