import Mathlib.Tactic.Common
import MessageConstraints.Proofs.Ascending
import MessageConstraints.Proofs.Composition

/-!
# The order in which violations are collected

A message is checked kind by kind, within a kind field by field or oneof by oneof, and within a
field element by element.  So its violations are in order: those of one constraint are
(`Site.ordered`), and the constraints of a type come by kind and position (`Sources.ordered_judge`).
By induction on the levels of nesting, this holds of the nested messages inside as well
(`Sources.ordered_evaluate`), as long as every nested message fits its type
(`Sources.ConformsAlong`).

Violations in order are all different, so that each of them is reported once
(`Validator.violations_ordered`).
-/

namespace MessageConstraints

open Outcome

/-! ## Positions -/

/-- The kinds come in the order of evaluation. -/
theorem ConstraintKind.evaluationOrder_ascending : evaluationOrder.Pairwise fun a b =>
    evaluationOrder.idxOf a < evaluationOrder.idxOf b := by
  decide

/-- Some of what occurs once in a list, in the order of the list, ascends by position. -/
theorem pairwise_positions {α : Type} {things chosen : List α} (hnodup : things.Nodup)
    (hchosen : chosen.Sublist things) :
    chosen.Pairwise fun a b => ∀ i j : Nat, things[i]? = some a → things[j]? = some b → i < j := by
  refine List.Pairwise.sublist hchosen (List.pairwise_iff_getElem.mpr ?_)
  intro m n hm hn hlt i j hi hj
  obtain rfl := (List.getElem?_inj hm hnodup).mp ((List.getElem?_eq_getElem hm).trans hi.symm)
  obtain rfl := (List.getElem?_inj hn hnodup).mp ((List.getElem?_eq_getElem hn).trans hj.symm)
  exact hlt

/-- The element of a site is at a position in a type; the type as a whole has only one. -/
def Site.Placed (type : MessageType) (position : Nat) : Site → Prop
  | field schema _ => type.fields[position]? = some schema.field
  | oneof schema _ => type.oneofs[position]? = some schema.oneof
  | message _ => position = 0

namespace Sources

variable {sources : Sources} {pool : Nat} {typeName : String} {schema : MessageSchema}

/-- The element of every site of a schema has a position in the type. -/
theorem exists_placed (hschema : sources.schemaAt pool typeName = .ok schema) {site : Site}
    (hsite : site ∈ schema.sites) : ∃ position, site.Placed schema.type position := by
  have hattached := MessageSchema.mem_sites.mp hsite
  cases site with
  | field field constraint =>
    have hmem : field.field ∈ schema.type.fields := by
      rw [← fields_schemaAt hschema]
      exact List.mem_map_of_mem hattached.2.1
    exact List.getElem?_of_mem hmem
  | oneof oneof constraint =>
    have hmem : oneof.oneof ∈ schema.type.oneofs.filter (!·.isSynthetic) := by
      rw [← oneofs_schemaAt hschema]
      exact List.mem_map_of_mem hattached.2.1
    exact List.getElem?_of_mem (List.mem_of_mem_filter hmem)
  | message constraint => exact ⟨0, rfl⟩

/-- The constraints of one kind come in the order of their positions. -/
theorem sitesOf_ascending (hlinked : sources.catalog.Linked pool)
    (hschema : sources.schemaAt pool typeName = .ok schema) (kind : ConstraintKind) :
    (schema.sitesOf kind).Pairwise fun a b => ∀ i j, a.Placed schema.type i →
      b.Placed schema.type j → i < j := by
  have htype := type_schemaAt hschema
  unfold MessageSchema.sitesOf
  split
  case h_1 =>
    have hchosen : (schema.fields.map (·.field)).Sublist schema.type.fields := by
      rw [fields_schemaAt hschema]
    have hfields := List.pairwise_map.mp
      (pairwise_positions (hlinked.field_names _ _ htype).of_map hchosen)
    refine List.pairwise_filterMap.mpr (hfields.imp fun {f g} hlt => ?_)
    intro site hsite site' hsite'
    obtain ⟨constraint, -, rfl⟩ := Option.map_eq_some_iff.mp hsite
    obtain ⟨constraint', -, rfl⟩ := Option.map_eq_some_iff.mp hsite'
    exact hlt
  case h_2 =>
    have hchosen : (schema.oneofs.map (·.oneof)).Sublist schema.type.oneofs := by
      rw [oneofs_schemaAt hschema]
      exact List.filter_sublist
    have honeofs := List.pairwise_map.mp
      (pairwise_positions (hlinked.oneof_names _ _ htype).of_map hchosen)
    refine List.pairwise_filterMap.mpr (honeofs.imp fun {f g} hlt => ?_)
    intro site hsite site' hsite'
    obtain ⟨constraint, -, rfl⟩ := Option.map_eq_some_iff.mp hsite
    obtain ⟨constraint', -, rfl⟩ := Option.map_eq_some_iff.mp hsite'
    exact hlt
  case h_3 =>
    cases schema.constraints.get? kind with
    | none => exact List.Pairwise.nil
    | some constraint => exact List.pairwise_singleton _ _

end Sources

/-! ## Messages -/

/-- A message fits its type, and so do all nested messages that recursion comes upon in it. -/
def Sources.ConformsAlong (sources : Sources) (pool : Nat) (message : Message) : Prop :=
  ∀ levels path innerType inner,
    sources.Leads pool levels message.typeName message path innerType inner →
      sources.Conforms pool inner

namespace Sources.ConformsAlong

variable {sources : Sources} {pool : Nat} {message nested : Message} {place : FieldPath}

theorem conforms (h : sources.ConformsAlong pool message) : sources.Conforms pool message :=
  h 0 [] message.typeName message .here

theorem inwards (h : sources.ConformsAlong pool message)
    (hdescends : sources.Descends pool message.typeName message place nested.typeName nested) :
    sources.ConformsAlong pool nested :=
  fun _ _ _ _ hleads => h _ _ _ _ (.inwards hdescends hleads)

end Sources.ConformsAlong

/-- Whatever is collected from the nested messages of a message is in order. -/
def Sources.OrderedInside (sources : Sources) (pool : Nat) (visit : String → Message → Outcome)
    (message : Message) : Prop :=
  ∀ place nested ws,
    sources.Descends pool message.typeName message place nested.typeName nested →
    (visit nested.typeName nested).found = .ok ws → ∃ ranks, sources.Ordered pool nested ranks ws

section

variable {sources : Sources} {pool : Nat} {message : Message} {schema : MessageSchema}
  {visit : String → Message → Outcome} {kind : ConstraintKind} {position : Nat}

/-- What comes of a constraint that does not ask for recursion is in order. -/
theorem Site.orderedAt_own (hschema : sources.schemaAt pool message.typeName = .ok schema)
    {site : Site} (hplaced : site.Placed schema.type position)
    (hown : site.constraint ≠ .recurse true) (hcompile : ∃ check, site.compile schema = .ok check) :
    sources.OrderedAt pool message site.constraint.kind position
      (site.violations schema visit message) := by
  obtain ⟨check, hcompile⟩ := hcompile
  have htype := Sources.type_schemaAt hschema
  rw [violations, outcome_of_compile hcompile]
  cases site with
  | field field constraint =>
    exact FieldSchema.orderedAt_compile_own htype hplaced hown hcompile visit
  | oneof oneof constraint => exact OneofSchema.orderedAt_compile htype hplaced hcompile visit
  | message constraint =>
    obtain rfl : position = 0 := hplaced
    exact MessageSchema.orderedAt_compile htype hcompile visit

/-- The block of a nested message is a group. -/
theorem Sources.ordered_block {type : MessageType}
    (htype : sources.catalog.type? ⟨pool, message.typeName⟩ = some type) {rank : Rank}
    {place : FieldPath} (hrank : type.Ranks rank place) (hkind : rank.kind = .recurse)
    {nested : Message}
    (hdescends : sources.Descends pool message.typeName message place nested.typeName nested)
    {innerRanks : List Rank} {inner : List Violation}
    (hinner : sources.Ordered pool nested innerRanks inner) :
    ∃ ranks, sources.Ordered pool message ranks (Violation.block message.typeName place inner) ∧
      ∀ other ∈ ranks, other = rank := by
  cases inner with
  | nil => exact ⟨[], .nil, by simp⟩
  | cons v vs =>
    have hblock : sources.Ordered pool message [rank]
        (Violation.block message.typeName place (v :: vs) ++ []) :=
      .nested htype hrank hkind hdescends (by simp) hinner (by simp) .nil
    rw [List.append_nil] at hblock
    exact ⟨[rank], hblock, by simp⟩

/-- What comes of a constraint that asks for recursion is in order if it is in nested messages. -/
theorem FieldSchema.orderedAt_recurse
    (hne : ∀ nestedType nested, visit nestedType nested ≠ .violations [])
    (hconforms : sources.Conforms pool message)
    (hschema : sources.schemaAt pool message.typeName = .ok schema)
    (hinside : sources.OrderedInside pool visit message) {field : FieldSchema}
    (hplaced : schema.type.fields[position]? = some field.field)
    (hsite : .field field (.recurse true) ∈ schema.sitesOf .recurse)
    (hcompile : ∃ check, (Site.field field (.recurse true)).compile schema = .ok check)
    (hfound : ((Site.field field (.recurse true)).outcome schema visit message).found =
      .ok ((Site.field field (.recurse true)).outcome schema visit message).listed) :
    sources.OrderedAt pool message .recurse position
      ((Site.field field (.recurse true)).violations schema visit message) := by
  have hfits := hconforms.fits hschema
  obtain ⟨hall, hblocks⟩ := schema.violations_nests hne hfits hsite hcompile hfound
  obtain ⟨-, hfield, -⟩ :=
    MessageSchema.mem_sites.mp (MessageSchema.mem_sites_of_mem_sitesOf hsite)
  obtain ⟨entries, hentries, hascending, hshape⟩ :=
    Check.nestedMessages_ascending (hfits field hfield)
  have hnests : (Site.field field (.recurse true)).nests message =
      entries.map fun entry => (.field field.name :: entry.1.steps, entry.2) := by
    rw [Site.nests, hentries, List.map_map]
    rfl
  rw [hnests] at hall hblocks
  rw [hblocks, List.flatMap_map]
  refine Sources.orderedAt_flatMap (fun entry : Element × Message => entry.1) ?_ hascending
  intro entry hentry
  have hmem : (.field field.name :: entry.1.steps, entry.2) ∈ schema.nests message := by
    refine List.mem_flatMap.mpr ⟨_, hsite, ?_⟩
    rw [hnests]
    exact List.mem_map_of_mem hentry
  have hdescends := (hconforms.mem_nests_iff hschema).mp hmem
  obtain ⟨innerRanks, hordered⟩ :=
    hinside _ _ _ hdescends (hall _ (List.mem_map_of_mem hentry))
  have hrank : schema.type.Ranks ⟨.recurse, position, entry.1⟩
      (.field field.name :: entry.1.steps) := .field rfl hplaced (hshape entry hentry)
  exact Sources.ordered_block (Sources.type_schemaAt hschema) hrank rfl hdescends hordered

/-- What comes of any constraint is in order, in groups of its kind at the position of its element,
if it is in nested messages. -/
theorem Site.ordered
    (hne : ∀ nestedType nested, visit nestedType nested ≠ .violations [])
    (hconforms : sources.Conforms pool message)
    (hschema : sources.schemaAt pool message.typeName = .ok schema)
    (hinside : sources.OrderedInside pool visit message) {site : Site}
    (hsite : site ∈ schema.sitesOf kind) (hcompile : ∃ check, site.compile schema = .ok check)
    (hfound : (site.outcome schema visit message).found =
      .ok (site.outcome schema visit message).listed) :
    ∃ ranks, sources.Ordered pool message ranks (site.violations schema visit message) ∧
      ∀ rank ∈ ranks, rank.kind = kind ∧ site.Placed schema.type rank.position := by
  have hmem := MessageSchema.mem_sites_of_mem_sitesOf hsite
  obtain ⟨position, hplaced⟩ := Sources.exists_placed hschema hmem
  obtain rfl := MessageSchema.kind_of_mem_sitesOf hsite
  have hordered : sources.OrderedAt pool message site.constraint.kind position
      (site.violations schema visit message) := by
    by_cases hown : site.constraint = .recurse true
    · obtain ⟨field, rfl⟩ := MessageSchema.exists_field_of_recurse hmem hown
      exact FieldSchema.orderedAt_recurse hne hconforms hschema hinside hplaced hsite hcompile
        hfound
    · exact Site.orderedAt_own hschema hplaced hown hcompile
  obtain ⟨ranks, hordered, hranks⟩ := hordered
  refine ⟨ranks, hordered, fun rank hrank => ?_⟩
  obtain ⟨hkind, rfl⟩ := hranks rank hrank
  exact ⟨hkind, hplaced⟩

/-- **The violations of a message are in order**, if those of nested messages are. -/
theorem Sources.ordered_judge (hlinked : sources.catalog.Linked pool)
    (hne : ∀ nestedType nested, visit nestedType nested ≠ .violations [])
    (hconforms : sources.Conforms pool message)
    (hinside : sources.OrderedInside pool visit message) {vs : List Violation}
    (h : ((sources.checksAt pool).judge .collect visit message.typeName message).found = .ok vs) :
    ∃ ranks, sources.Ordered pool message ranks vs := by
  obtain ⟨schema, hschema, hsites, rfl⟩ := violations_judge h
  -- Within a kind, the positions of fields and oneofs ascend.
  have hkinds : ∀ kind ∈ ConstraintKind.evaluationOrder, ∃ ranks,
      sources.Ordered pool message ranks
        ((schema.sitesOf kind).flatMap (Site.violations schema visit message)) ∧
      ∀ rank ∈ ranks, rank.kind = kind := by
    intro kind _
    have hbefore : (schema.sitesOf kind).Pairwise fun a b => ∀ rank rank' : Rank,
        (rank.kind = kind ∧ a.Placed schema.type rank.position) →
        (rank'.kind = kind ∧ b.Placed schema.type rank'.position) → rank.Before rank' := by
      refine (sitesOf_ascending hlinked hschema kind).imp fun {a b} hlt rank rank' => ?_
      rintro ⟨hkind, hposition⟩ ⟨hkind', hposition'⟩
      exact Or.inr ⟨hkind.trans hkind'.symm, Or.inl (hlt _ _ hposition hposition')⟩
    have hordered : ∀ site ∈ schema.sitesOf kind, _ := fun site hsite =>
      have ⟨hcompile, hfound⟩ := hsites site (MessageSchema.mem_sites_of_mem_sitesOf hsite)
      site.ordered hne hconforms hschema hinside hsite hcompile hfound
    obtain ⟨ranks, hordered, hranks⟩ := Ordered.flatMap hordered hbefore
    refine ⟨ranks, hordered, fun rank hrank => ?_⟩
    obtain ⟨_, -, hkind, -⟩ := hranks rank hrank
    exact hkind
  have hbefore : ConstraintKind.evaluationOrder.Pairwise fun a b => ∀ rank rank' : Rank,
      rank.kind = a → rank'.kind = b → rank.Before rank' := by
    refine ConstraintKind.evaluationOrder_ascending.imp ?_
    rintro _ _ hlt rank rank' rfl rfl
    exact Or.inl hlt
  obtain ⟨ranks, hordered, -⟩ := Ordered.flatMap hkinds hbefore
  rw [← List.flatMap_assoc] at hordered
  exact ⟨ranks, hordered⟩

end

/-- Whatever is collected, on any number of levels, is in order. -/
theorem Sources.ordered_evaluate {sources : Sources} {pool limit : Nat}
    (hlinked : sources.catalog.Linked pool) (levels : Nat) {message : Message}
    (hconforms : sources.ConformsAlong pool message) {vs : List Violation}
    (h : ((sources.checksAt pool).evaluate .collect limit levels message.typeName message).found =
      .ok vs) :
    ∃ ranks, sources.Ordered pool message ranks vs := by
  induction levels generalizing message vs with
  | zero =>
    -- Without a level left, no nested message comes to anything.
    refine ordered_judge hlinked ?_ hconforms.conforms ?_ h
    · intro nestedType nested hvisit
      cases hvisit
    · intro place nested ws _ hfound
      cases hfound
  | succ below ih =>
    refine ordered_judge hlinked ?_ hconforms.conforms ?_ h
    · exact fun nestedType nested =>
        (CheckTable.shortens_evaluate _ limit below nestedType nested).ne_violations_nil.1
    · exact fun place nested ws hdescends hfound => ih (hconforms.inwards hdescends) hfound

/-! ## Validators over one pool -/

namespace Validator

/-- **Every violation is reported once, and in order.**  A validator over one pool collects the
violations of a message in which every nested message fits its type, on any number of levels.

Then no two of them have the same path and the same label.  They are in order: they fall into
groups, one for each place where a constraint is broken, or for each broken nested message; the
groups come by the kinds of the constraints, then by the positions of their fields or oneofs in the
type, then by list index or key; and the violations that a group has of a nested message are in
order in the same way. -/
theorem violations_ordered {catalog : Catalog} {options : List ValidatorOption}
    {history : List Request} {validator : Validator}
    (h : validator.Arises catalog options history) (hlinked : catalog.Linked 0)
    {message : Message} (hconforms : validator.sources.ConformsAlong 0 message) {depth : Nat}
    {vs : List Violation} (hvs : validator.report .collect depth 0 message = .violations vs) :
    (vs.map fun v => (v.path, v.rule)).Nodup ∧
      ∃ ranks, validator.sources.Ordered 0 message ranks vs := by
  have hfound : (validator.report .collect depth 0 message).found = .ok vs := by rw [hvs]; rfl
  rw [h.settled.report_eq (serves_of_found hfound)] at hfound
  have hlinked' : validator.sources.catalog.Linked 0 := h.catalog_eq.symm ▸ hlinked
  obtain ⟨ranks, hordered⟩ := Sources.ordered_evaluate hlinked' depth hconforms hfound
  have hrules : (vs.map fun v => (v.path, v.rule)) =
      (vs.map fun v => (v.path, v.kind)).map fun p => (p.1, p.2.optionName) := by
    rw [List.map_map]
    rfl
  refine ⟨?_, ranks, hordered⟩
  rw [hrules]
  refine (hordered.nodup hlinked').map fun p q heq => ?_
  obtain ⟨hpath, hkind⟩ := Prod.mk.inj heq
  exact Prod.ext hpath (ConstraintKind.optionName_injective hkind)

end Validator

/-! ## A node with a child -/

/-- The nameless node and its child fit their type. -/
theorem Sample.conformsAlong_nameless : validator.sources.ConformsAlong 0 nameless := by
  intro levels path innerType inner hleads
  cases hleads with
  | here => exact conforms_nameless
  | inwards hchild hinner =>
    obtain ⟨rfl, rfl⟩ := eq_of_descends_nameless hchild
    cases hinner with
    | here =>
      refine conforms_node ?_ ?_
      · intro typeName fields hnone
        cases hnone
      · intro typeName fields hnone
        cases hnone
    | inwards hnone => exact absurd hnone not_descends_empty

/-- The nameless node lacks its name, and so does its child: three violations in order. -/
theorem Validator.violations_ordered_nameless :
    ∃ vs ranks, Sample.validator.report .collect 1 0 Sample.nameless = .violations vs ∧
      vs.map (fun v => (v.path, v.rule)) = [([.field "name"], "required"),
        ([.field "child"], "recurse"), ([.field "child", .field "name"], "required")] ∧
      (vs.map fun v => (v.path, v.rule)).Nodup ∧
      Sample.validator.sources.Ordered 0 Sample.nameless ranks vs := by
  have hreport : ∃ vs, Sample.validator.report .collect 1 0 Sample.nameless = .violations vs ∧
      vs.map (fun v => (v.path, v.rule)) = [([.field "name"], "required"),
        ([.field "child"], "recurse"), ([.field "child", .field "name"], "required")] := by
    rw [Sample.report_node 1 rfl]
    exact ⟨_, rfl, rfl⟩
  obtain ⟨vs, hvs, hshown⟩ := hreport
  obtain ⟨hnodup, ranks, hordered⟩ := violations_ordered Sample.arises_validator
    Sample.linked_catalog Sample.conformsAlong_nameless hvs
  exact ⟨vs, ranks, hvs, hshown, hnodup, hordered⟩

end MessageConstraints
