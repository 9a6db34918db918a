import Mathlib.Tactic.Common
import MessageConstraints.Proofs.Eager
import MessageConstraints.Proofs.Elements
import MessageConstraints.Proofs.Listing

/-!
# Nested messages inside the messages around them

The violations of a message are those of the constraints on it and, in between, one block for each
nested message that recursion comes upon (`Sources.exists_blocks`).  A block has just the violations
that the nested message has when it is validated by itself one level less deep
(`Validator.nested_violations_compose`).

The blocks do not get in each other's way, because no place of a nested message lies inside another
one (`MessageSchema.nests_apart`), and the constraints on the message itself are broken at places
that do not lie strictly inside nested messages (`MessageSchema.Breaks.eq_of_isPrefix`).
-/

namespace MessageConstraints

open Outcome

/-! ## Places of nested messages -/

/-- Neither of two places lies inside the other. -/
def FieldPath.Apart (a b : FieldPath) : Prop :=
  ¬ a <+: b ∧ ¬ b <+: a

/-- A violation is about what is broken in the nested message at a place: it says that something is,
or it lies inside. -/
def Violation.Inside (place : FieldPath) (v : Violation) : Prop :=
  (v.kind = .recurse ∧ v.path = place) ∨ (place <+: v.path ∧ place ≠ v.path)

theorem FieldPath.Apart.symm {a b : FieldPath} (h : a.Apart b) : b.Apart a :=
  And.symm h

theorem Violation.Inside.isPrefix {place : FieldPath} {v : Violation} (h : v.Inside place) :
    place <+: v.path := by
  rcases h with ⟨-, rfl⟩ | ⟨hstarts, -⟩
  · exact List.prefix_refl _
  · exact hstarts

/-- A block is about nothing inside a place that lies apart. -/
theorem Violation.not_inside_of_mem_block {place other : FieldPath} (h : place.Apart other)
    {typeName : String} {v : Violation} {vs : List Violation}
    (hv : v ∈ block typeName other vs) : ¬ v.Inside place := by
  intro hinside
  rcases List.prefix_or_prefix_of_prefix hinside.isPrefix (place_isPrefix_of_mem_block hv) with
    hstarts | hstarts
  · exact h.1 hstarts
  · exact h.2 hstarts

namespace Element

variable {a b : Element} {shape : FieldShape}

/-- Different elements of a field, one before the other, have places apart. -/
theorem Before.apart (h : a.Before b) (ha : a.IsOf shape) (hb : b.IsOf shape) :
    FieldPath.Apart a.steps b.steps := by
  have hlength : a.steps.length = b.steps.length := by
    cases a <;> cases b <;> first | exact h.elim | rfl
  have hne : a.steps ≠ b.steps := fun heq => h.ne (steps_injective ha hb heq)
  refine ⟨fun hstarts => hne ?_, fun hstarts => hne ?_⟩
  · exact hstarts.eq_of_length hlength
  · exact (hstarts.eq_of_length hlength.symm).symm

end Element

/-! ## Nested messages of a schema -/

/-- The nested messages that recursion comes upon at a site, with their places. -/
def Site.nests (message : Message) : Site → List (FieldPath × Message)
  | .field schema (.recurse true) => (Check.nestedMessages schema.field message).map
      fun entry => (.field schema.name :: entry.1, entry.2)
  | _ => []

theorem Site.mem_nests {message nested : Message} {place : FieldPath} {site : Site} :
    (place, nested) ∈ site.nests message ↔
      ∃ schema, site = .field schema (.recurse true) ∧
        schema.field.Nests message place nested := by
  constructor
  · intro hmem
    unfold nests at hmem
    split at hmem
    case h_2 => cases hmem
    case h_1 schema =>
      obtain ⟨⟨steps, inner⟩, hentry, heq⟩ := List.mem_map.mp hmem
      obtain ⟨rfl, rfl⟩ := Prod.mk.inj heq
      exact ⟨schema, rfl, Check.mem_nestedMessages.mp hentry⟩
  · rintro ⟨schema, rfl, hnests⟩
    obtain ⟨steps, rfl⟩ := hnests.place_eq
    exact List.mem_map.mpr ⟨(steps, nested), Check.mem_nestedMessages.mpr hnests, rfl⟩

namespace MessageSchema

/-- The nested messages that recursion comes upon in a message, with their places. -/
def nests (schema : MessageSchema) (message : Message) : List (FieldPath × Message) :=
  (schema.sitesOf .recurse).flatMap (Site.nests message)

variable {schema : MessageSchema} {message : Message}

/-- The constraints of one kind are of this kind. -/
theorem kind_of_mem_sitesOf {kind : ConstraintKind} {site : Site} (h : site ∈ schema.sitesOf kind) :
    site.constraint.kind = kind := by
  unfold sitesOf at h
  split at h
  · obtain ⟨field, -, hmap⟩ := List.mem_filterMap.mp h
    obtain ⟨constraint, hget, rfl⟩ := Option.map_eq_some_iff.mp hmap
    exact ConstraintSet.kind_of_get? hget
  · obtain ⟨oneof, -, hmap⟩ := List.mem_filterMap.mp h
    obtain ⟨constraint, hget, rfl⟩ := Option.map_eq_some_iff.mp hmap
    exact ConstraintSet.kind_of_get? hget
  · obtain ⟨constraint, hget, rfl⟩ := Option.map_eq_some_iff.mp (Option.mem_toList.mp h)
    exact ConstraintSet.kind_of_get? hget

theorem mem_sites_of_mem_sitesOf {kind : ConstraintKind} {site : Site}
    (h : site ∈ schema.sitesOf kind) : site ∈ schema.sites :=
  List.mem_flatMap.mpr ⟨kind, kind.mem_evaluationOrder, h⟩

/-- Only a constraint on a field asks for recursion. -/
theorem exists_field_of_recurse {site : Site} (hsite : site ∈ schema.sites)
    (hrecurse : site.constraint = .recurse true) :
    ∃ field, site = .field field (.recurse true) := by
  have hattached := mem_sites.mp hsite
  cases site with
  | field field constraint =>
    obtain rfl : constraint = .recurse true := hrecurse
    exact ⟨field, rfl⟩
  | oneof oneof constraint =>
    obtain rfl : constraint = .recurse true := hrecurse
    cases hattached.1
  | message constraint =>
    obtain rfl : constraint = .recurse true := hrecurse
    cases hattached.1

theorem mem_nests {place : FieldPath} {nested : Message} :
    (place, nested) ∈ schema.nests message ↔
      ∃ field ∈ schema.fields, field.constraints.get? .recurse = some (.recurse true) ∧
        field.field.Nests message place nested := by
  constructor
  · intro hmem
    obtain ⟨site, hsite, hnested⟩ := List.mem_flatMap.mp hmem
    obtain ⟨field, rfl, hnests⟩ := Site.mem_nests.mp hnested
    obtain ⟨-, hfield, hget⟩ := mem_sites.mp (mem_sites_of_mem_sitesOf hsite)
    exact ⟨field, hfield, hget, hnests⟩
  · rintro ⟨field, hfield, hget, hnests⟩
    have hsite : Site.field field (.recurse true) ∈ schema.sitesOf .recurse :=
      List.mem_filterMap.mpr ⟨field, hfield, by rw [hget]; rfl⟩
    exact List.mem_flatMap.mpr ⟨_, hsite, Site.mem_nests.mpr ⟨field, rfl, hnests⟩⟩

/-- The places of nested messages lie apart from each other. -/
theorem nests_apart (hnames : (schema.fields.map (·.name)).Nodup)
    (hfits : ∀ field ∈ schema.fields, field.field.Fits message) :
    (schema.nests message).Pairwise fun a b => FieldPath.Apart a.1 b.1 := by
  refine List.pairwise_flatMap.mpr ⟨fun site hsite => ?_, ?_⟩
  · unfold Site.nests
    split
    case h_2 => exact List.Pairwise.nil
    case h_1 field =>
      obtain ⟨-, hfield, -⟩ := mem_sites.mp (mem_sites_of_mem_sitesOf hsite)
      obtain ⟨entries, hentries, hascending, hshape⟩ :=
        Check.nestedMessages_ascending (hfits field hfield)
      rw [hentries, List.map_map, List.pairwise_map]
      refine hascending.imp_of_mem fun {a b} ha hb hbefore => ?_
      obtain ⟨hab, hba⟩ := hbefore.apart (hshape a ha) (hshape b hb)
      refine ⟨fun h => hab ?_, fun h => hba ?_⟩
      · exact (List.cons_prefix_cons.mp h).2
      · exact (List.cons_prefix_cons.mp h).2
  · refine List.pairwise_filterMap.mpr ((List.pairwise_map.mp hnames).imp fun {f g} hne => ?_)
    intro site hsite site' hsite' a ha b hb
    obtain ⟨constraint, -, rfl⟩ := Option.map_eq_some_iff.mp hsite
    obtain ⟨constraint', -, rfl⟩ := Option.map_eq_some_iff.mp hsite'
    obtain ⟨field, hfield, hnests⟩ := Site.mem_nests.mp ha
    obtain ⟨field', hfield', hnests'⟩ := Site.mem_nests.mp hb
    obtain ⟨rfl, -⟩ := Site.field.inj hfield
    obtain ⟨rfl, -⟩ := Site.field.inj hfield'
    obtain ⟨steps, hplace⟩ := hnests.place_eq
    obtain ⟨steps', hplace'⟩ := hnests'.place_eq
    rw [hplace, hplace']
    refine ⟨fun h => hne ?_, fun h => hne ?_⟩
    · exact Segment.field.inj (List.cons_prefix_cons.mp h).1
    · exact (Segment.field.inj (List.cons_prefix_cons.mp h).1).symm

end MessageSchema

/-! ## Constraints on the message itself -/

/-- A constraint on a field is broken at the field, or at an element of a list. -/
theorem FieldSchema.Breaks.place_eq {schema : FieldSchema} {owner : MessageSchema}
    {message : Message} {constraint : Constraint} {place : FieldPath}
    (h : schema.Breaks owner message constraint place) :
    place = [.field schema.name] ∨ ∃ items index,
      message.get schema.field = .list items ∧ place = [.field schema.name, .index index] := by
  have hvalue : ∀ {value : Value}, message.ValueAt schema.field place value →
      place = [.field schema.name] ∨ ∃ items index,
        message.get schema.field = .list items ∧ place = [.field schema.name, .index index] := by
    intro value hvalue
    cases hvalue with
    | whole => exact Or.inl rfl
    | element hlist => exact Or.inr ⟨_, _, hlist, rfl⟩
  cases constraint with
  | required on =>
    obtain ⟨-, rfl, -⟩ := h
    exact Or.inl rfl
  | dependency rule =>
    obtain ⟨rfl, -⟩ := h
    exact Or.inl rfl
  | pattern rule =>
    obtain ⟨value, hat, -⟩ := h
    exact hvalue hat
  | min rule =>
    obtain ⟨value, hat, -⟩ := h
    exact hvalue hat
  | max rule =>
    obtain ⟨value, hat, -⟩ := h
    exact hvalue hat
  | range source =>
    obtain ⟨value, hat, -⟩ := h
    exact hvalue hat
  | distinct on =>
    obtain ⟨-, items, _, index, _, _, hlist, -, -, -, -, rfl⟩ := h
    exact Or.inr ⟨items, index, hlist, rfl⟩
  | recurse on => exact h.elim
  | choice rule => exact h.elim
  | combination source => exact h.elim

theorem OneofSchema.Breaks.place_eq {schema : OneofSchema} {message : Message}
    {constraint : Constraint} {place : FieldPath} (h : schema.Breaks message constraint place) :
    place = [.field schema.oneof.name] := by
  cases constraint with
  | choice rule => exact h.2.1
  | _ => exact h.elim

namespace MessageSchema

variable {schema : MessageSchema} {message : Message} {kind : ConstraintKind}

theorem BreaksWhole.place_eq {constraint : Constraint} {place : FieldPath}
    (h : schema.BreaksWhole message constraint place) :
    place = [] ∧ constraint.kind = .combination := by
  cases constraint with
  | combination source => exact ⟨h.1, rfl⟩
  | _ => exact h.elim

/-- Only a constraint on the message as a whole is broken at no field. -/
theorem Breaks.kind_of_nil (h : schema.Breaks message [] kind) : kind = .combination := by
  rcases h with ⟨-, -, hbreaks⟩ | ⟨-, -, hbreaks⟩ | ⟨-, hbreaks⟩
  · rcases hbreaks.place_eq with hplace | ⟨_, _, -, hplace⟩ <;> cases hplace
  · cases hbreaks.place_eq
  · exact hbreaks.place_eq.2

/-- None of the constraints on the message itself asks for recursion. -/
theorem Breaks.kind_ne_recurse {path : FieldPath} (h : schema.Breaks message path kind) :
    kind ≠ .recurse := by
  rcases h with @⟨_, constraint, _, -, -, hbreaks⟩ | @⟨_, constraint, _, -, -, hbreaks⟩ |
    @⟨constraint, _, -, hbreaks⟩
  · cases constraint <;> first | exact hbreaks.elim | (intro h; cases h)
  · cases constraint <;> first | exact hbreaks.elim | (intro h; cases h)
  · cases constraint <;> first | exact hbreaks.elim | (intro h; cases h)

/-- A constraint on the message itself is not broken strictly inside of a nested message. -/
theorem Breaks.eq_of_isPrefix (hnames : (schema.fields.map (·.name)).Nodup)
    {place path : FieldPath} (hbreaks : schema.Breaks message path kind) {field : FieldSchema}
    (hfield : field ∈ schema.fields) {nested : Message}
    (hnests : field.field.Nests message place nested) (hstarts : place <+: path) :
    place = path := by
  obtain ⟨steps, rfl⟩ := hnests.place_eq
  have hlast : ∀ name, path = [.field name] → .field field.field.name :: steps = path := by
    rintro name rfl
    obtain ⟨hname, hsteps⟩ := List.cons_prefix_cons.mp hstarts
    rw [hname, List.prefix_nil.mp hsteps]
  rcases hbreaks with @⟨other, constraint, _, hother, -, hbreaks⟩ | ⟨-, -, hbreaks⟩ |
    ⟨-, hbreaks⟩
  · rcases hbreaks.place_eq with hplace | ⟨items, index, hlist, rfl⟩
    · exact hlast _ hplace
    · obtain ⟨hname, hsteps⟩ := List.cons_prefix_cons.mp hstarts
      -- The field of the list is the one of the nested message, so that this is an element as well.
      obtain rfl : field = other :=
        List.inj_on_of_nodup_map hnames hfield hother (Segment.field.inj hname)
      cases hnests with
      | single _ hstored =>
        rw [Message.get, hstored] at hlist
        cases hlist
      | element => rw [hsteps.eq_of_length rfl]; rfl
      | entry => rw [hsteps.eq_of_length rfl]; rfl
  · exact hlast _ hbreaks.place_eq
  · rw [hbreaks.place_eq.1] at hstarts
    cases List.prefix_nil.mp hstarts

end MessageSchema

/-! ## Blocks inside the violations of a message -/

/-- Constraints on recursion are evaluated all in a row. -/
theorem ConstraintKind.exists_evaluationOrder_eq : ∃ early late : List ConstraintKind,
    evaluationOrder = early ++ .recurse :: late ∧ .recurse ∉ early ∧ .recurse ∉ late :=
  ⟨[.required, .pattern, .combination, .min, .max, .range, .distinct], [.dependency, .choice],
    rfl, by simp, by simp⟩

theorem Sources.Conforms.fits {sources : Sources} {pool : Nat} {message : Message}
    (h : sources.Conforms pool message) {schema : MessageSchema}
    (hschema : sources.schemaAt pool message.typeName = .ok schema) :
    ∀ field ∈ schema.fields, field.field.Fits message := by
  intro field hfield
  have hmem : field.field ∈ schema.type.fields := by
    rw [← fields_schemaAt hschema]
    exact List.mem_map_of_mem hfield
  exact h schema.type (type_schemaAt hschema) field.field hmem

/-- In a message that fits its type, the nested messages of the schema are those that recursion
comes upon. -/
theorem Sources.Conforms.mem_nests_iff {sources : Sources} {pool : Nat} {message : Message}
    (h : sources.Conforms pool message) {schema : MessageSchema}
    (hschema : sources.schemaAt pool message.typeName = .ok schema) {place : FieldPath}
    {nested : Message} :
    (place, nested) ∈ schema.nests message ↔
      sources.Descends pool message.typeName message place nested.typeName nested := by
  rw [descends_iff_schema hschema, MessageSchema.mem_nests]
  constructor
  · rintro ⟨field, hfield, hget, hnests⟩
    exact ⟨field, hfield, hget, (h.fits hschema field hfield).nested_type _ _ hnests, hnests⟩
  · rintro ⟨field, hfield, hget, -, hnests⟩
    exact ⟨field, hfield, hget, hnests⟩

section

variable {visit : String → Message → Outcome} {schema : MessageSchema} {message : Message}

/-- What comes of a constraint on recursion are the blocks of the nested messages at its site. -/
theorem MessageSchema.violations_nests
    (hne : ∀ nestedType nested, visit nestedType nested ≠ .violations [])
    (hfits : ∀ field ∈ schema.fields, field.field.Fits message) {site : Site}
    (hsite : site ∈ schema.sitesOf .recurse)
    (hcompile : ∃ check, site.compile schema = .ok check)
    (hfound : (site.outcome schema visit message).found =
      .ok (site.outcome schema visit message).listed) :
    (∀ nest ∈ site.nests message, (visit nest.2.typeName nest.2).found =
      .ok (visit nest.2.typeName nest.2).listed) ∧
    site.violations schema visit message = (site.nests message).flatMap fun nest =>
      Violation.block message.typeName nest.1 (visit nest.2.typeName nest.2).listed := by
  obtain ⟨check, hcompile⟩ := hcompile
  obtain ⟨field, hfield, hmap⟩ := List.mem_filterMap.mp hsite
  obtain ⟨constraint, hget, rfl⟩ := Option.map_eq_some_iff.mp hmap
  have hkind : constraint.kind = .recurse := ConstraintSet.kind_of_get? hget
  cases constraint with
  | recurse on =>
    cases on with
    | false =>
      have hnone : (Site.field field (.recurse false)).compile schema = .ok none := rfl
      refine ⟨by simp [Site.nests], ?_⟩
      rw [Site.violations, Site.outcome_of_compile hnone]
      rfl
    | true =>
      obtain ⟨nestedType, htype, hall, hblocks⟩ := Site.violations_recurse hne hcompile hfound
      -- All nested messages are of the type that the field declares.
      have hsame : ∀ entry ∈ Check.nestedMessages field.field message,
          entry.2.typeName = nestedType := by
        intro entry hentry
        have hdeclared := (hfits field hfield).nested_type _ _ (Check.mem_nestedMessages.mp hentry)
        exact Option.some.inj (hdeclared.symm.trans htype)
      refine ⟨fun nest hnest => ?_, ?_⟩
      · obtain ⟨entry, hentry, rfl⟩ := List.mem_map.mp hnest
        rw [hsame entry hentry]
        exact hall entry hentry
      · rw [hblocks, Site.nests, List.flatMap_map]
        refine List.flatMap_congr fun entry hentry => ?_
        rw [hsame entry hentry]
  | _ => cases hkind

/-- What comes of the other constraints are violations of them. -/
theorem MessageSchema.breaks_of_mem_violations {kinds : List ConstraintKind}
    (hkinds : .recurse ∉ kinds)
    (hcompile : ∀ site ∈ schema.sites, ∃ check, site.compile schema = .ok check) {v : Violation}
    (hv : v ∈ (kinds.flatMap schema.sitesOf).flatMap (Site.violations schema visit message)) :
    v.messageType = message.typeName ∧ schema.Breaks message v.path v.kind := by
  obtain ⟨site, hsite, hv⟩ := List.mem_flatMap.mp hv
  obtain ⟨kind, hkind, hsite⟩ := List.mem_flatMap.mp hsite
  have hmem := mem_sites_of_mem_sitesOf hsite
  obtain ⟨check, hcompile⟩ := hcompile site hmem
  have hown : site.constraint ≠ .recurse true := by
    intro heq
    have hrecurse : .recurse = kind := by rw [← kind_of_mem_sitesOf hsite, heq]; rfl
    exact hkinds (hrecurse ▸ hkind)
  obtain ⟨htype, hvkind, hbreaks⟩ := Site.breaks_of_mem_violations hown hcompile hv
  exact ⟨htype, breaks_iff_sites.mpr ⟨site, hmem, hvkind, hbreaks⟩⟩

end

/-- The violations of a message are those of the constraints on it and, in between, a block for each
nested message that recursion comes upon. -/
theorem Sources.exists_blocks {sources : Sources} {pool : Nat} {message : Message}
    {visit : String → Message → Outcome} {vs : List Violation}
    (hne : ∀ nestedType nested, visit nestedType nested ≠ .violations [])
    (hconforms : sources.Conforms pool message)
    (h : ((sources.checksAt pool).judge .collect visit message.typeName message).found = .ok vs) :
    ∃ schema before after, sources.schemaAt pool message.typeName = .ok schema ∧
      (∀ nest ∈ schema.nests message, (visit nest.2.typeName nest.2).found =
        .ok (visit nest.2.typeName nest.2).listed) ∧
      vs = before ++ ((schema.nests message).flatMap fun nest =>
        Violation.block message.typeName nest.1 (visit nest.2.typeName nest.2).listed) ++ after ∧
      ∀ v ∈ before ++ after, v.messageType = message.typeName ∧
        schema.Breaks message v.path v.kind := by
  obtain ⟨schema, hschema, hsites, rfl⟩ := violations_judge h
  have hblocks : ∀ site ∈ schema.sitesOf .recurse, _ := fun site hsite =>
    have hsite' := hsites site (MessageSchema.mem_sites_of_mem_sitesOf hsite)
    MessageSchema.violations_nests hne (hconforms.fits hschema) hsite hsite'.1 hsite'.2
  have hcompile : ∀ site ∈ schema.sites, ∃ check, site.compile schema = .ok check :=
    fun site hsite => (hsites site hsite).1
  obtain ⟨early, late, horder, hearly, hlate⟩ := ConstraintKind.exists_evaluationOrder_eq
  refine ⟨schema, (early.flatMap schema.sitesOf).flatMap (Site.violations schema visit message),
    (late.flatMap schema.sitesOf).flatMap (Site.violations schema visit message),
    hschema, ?_, ?_, ?_⟩
  · intro nest hnest
    obtain ⟨site, hsite, hmem⟩ := List.mem_flatMap.mp hnest
    exact (hblocks site hsite).1 nest hmem
  · have hmiddle : (schema.sitesOf .recurse).flatMap (Site.violations schema visit message) =
        (schema.nests message).flatMap fun nest =>
          Violation.block message.typeName nest.1 (visit nest.2.typeName nest.2).listed := by
      rw [MessageSchema.nests, List.flatMap_assoc]
      exact List.flatMap_congr fun site hsite => (hblocks site hsite).2
    rw [← hmiddle, MessageSchema.sites, horder, List.flatMap_append, List.flatMap_cons,
      List.flatMap_append, List.flatMap_append, List.append_assoc]
  · intro v hv
    rcases List.mem_append.mp hv with hbefore | hafter
    · exact MessageSchema.breaks_of_mem_violations hearly hcompile hbefore
    · exact MessageSchema.breaks_of_mem_violations hlate hcompile hafter

/-- Around the block of a nested message, there is nothing that concerns it. -/
theorem MessageSchema.exists_around_block {schema : MessageSchema} {message : Message}
    (hnames : (schema.fields.map (·.name)).Nodup)
    (hfits : ∀ field ∈ schema.fields, field.field.Fits message) {before after : List Violation}
    (hown : ∀ v ∈ before ++ after, schema.Breaks message v.path v.kind)
    (alone : Message → List Violation) (typeName : String) {place : FieldPath} {nested : Message}
    (hmem : (place, nested) ∈ schema.nests message) :
    ∃ front back,
      before ++ ((schema.nests message).flatMap fun nest =>
        Violation.block typeName nest.1 (alone nest.2)) ++ after =
          front ++ Violation.block typeName place (alone nested) ++ back ∧
      ∀ v ∈ front ++ back, ¬ v.Inside place := by
  obtain ⟨others, others', hsplit⟩ := List.append_of_mem hmem
  have hapart := nests_apart hnames hfits
  rw [hsplit, List.pairwise_append, List.pairwise_cons] at hapart
  obtain ⟨-, ⟨hlater, -⟩, hearlier⟩ := hapart
  have hownOutside : ∀ v ∈ before ++ after, ¬ v.Inside place := by
    intro v hv hinside
    obtain ⟨field, hfield, -, hnests⟩ := mem_nests.mp hmem
    have hplace := (hown v hv).eq_of_isPrefix hnames hfield hnests hinside.isPrefix
    rcases hinside with ⟨hkind, -⟩ | ⟨-, hne⟩
    · exact (hown v hv).kind_ne_recurse hkind
    · exact hne hplace
  have hblocksOutside : ∀ nests : List (FieldPath × Message),
      (∀ nest ∈ nests, FieldPath.Apart place nest.1) →
      ∀ v ∈ nests.flatMap fun nest => Violation.block typeName nest.1 (alone nest.2),
        ¬ v.Inside place := by
    intro nests happart v hv
    obtain ⟨nest, hnest, hblock⟩ := List.mem_flatMap.mp hv
    exact Violation.not_inside_of_mem_block (happart nest hnest) hblock
  refine ⟨before ++ others.flatMap fun nest => Violation.block typeName nest.1 (alone nest.2),
    (others'.flatMap fun nest => Violation.block typeName nest.1 (alone nest.2)) ++ after, ?_, ?_⟩
  · rw [hsplit, List.flatMap_append, List.flatMap_cons]
    simp only [List.append_assoc]
  · intro v hv
    simp only [List.mem_append, or_assoc] at hv
    rcases hv with hbefore | hfront | hback | hafter
    · exact hownOutside v (List.mem_append_left _ hbefore)
    · refine hblocksOutside others (fun nest hnest => ?_) v hfront
      exact (hearlier nest hnest (place, nested) List.mem_cons_self).symm
    · exact hblocksOutside others' hlater v hback
    · exact hownOutside v (List.mem_append_right _ hafter)

/-- **Where a violation comes from.**  It is one of a constraint on the message itself, or it says
that a nested message is broken, or it is one of a nested message, seen from the message around
it. -/
theorem Sources.origin_of_mem {sources : Sources} {pool limit levels : Nat} {typeName : String}
    {message : Message} {vs : List Violation}
    (h : ((sources.checksAt pool).evaluate .collect limit levels typeName message).found = .ok vs)
    {schema : MessageSchema} (hschema : sources.schemaAt pool typeName = .ok schema)
    {v : Violation} (hv : v ∈ vs) :
    schema.Breaks message v.path v.kind ∨ ∃ name steps,
      (v.path = .field name :: steps ∧ v.kind = .recurse) ∨
      ∃ below nestedType nested ws inner,
        ((sources.checksAt pool).evaluate .collect limit below nestedType nested).found = .ok ws ∧
        inner ∈ ws ∧ v.path = .field name :: steps ++ inner.path ∧ v.kind = inner.kind := by
  obtain ⟨visit, hne, hnested, hevaluate⟩ := (sources.checksAt pool).exists_visit limit levels
  rw [hevaluate] at h
  obtain ⟨_, hschema', hsites, rfl⟩ := violations_judge h
  obtain rfl : schema = _ := Except.ok.inj (hschema.symm.trans hschema')
  obtain ⟨site, hsite, hv⟩ := List.mem_flatMap.mp hv
  obtain ⟨⟨check, hcompile⟩, hfound⟩ := hsites site hsite
  by_cases hown : site.constraint = .recurse true
  · obtain ⟨field, rfl⟩ := MessageSchema.exists_field_of_recurse hsite hown
    obtain ⟨nestedType, -, hall, hblocks⟩ := Site.violations_recurse hne hcompile hfound
    rw [hblocks] at hv
    obtain ⟨⟨steps, nested⟩, hentry, hblock⟩ := List.mem_flatMap.mp hv
    refine Or.inr ⟨field.name, steps, ?_⟩
    rcases Violation.path_of_mem_block hblock with rfl | ⟨inner, hinner, rfl⟩
    · exact Or.inl ⟨rfl, rfl⟩
    · obtain ⟨below, hbelow⟩ := hnested _ _ _ (hall _ hentry)
      exact Or.inr ⟨below, nestedType, nested, _, inner, hbelow, hinner, rfl, rfl⟩
  · obtain ⟨-, hkind, hbreaks⟩ := Site.breaks_of_mem_violations hown hcompile hv
    exact Or.inl (MessageSchema.breaks_iff_sites.mpr ⟨site, hsite, hkind, hbreaks⟩)

/-- Only a violation of a constraint on the message as a whole has no path. -/
theorem Sources.kind_of_path_nil {sources : Sources} {pool limit levels : Nat} {typeName : String}
    {message : Message} {vs : List Violation}
    (h : ((sources.checksAt pool).evaluate .collect limit levels typeName message).found = .ok vs) :
    ∀ v ∈ vs, v.path = [] → v.kind = .combination := by
  intro v hv hpath
  obtain ⟨checks, hchecks⟩ := CheckTable.exists_checks_of_found h
  obtain ⟨schema, hschema, -⟩ := exists_schemaAt hchecks
  rcases origin_of_mem h hschema hv with hbreaks | ⟨name, steps, ⟨hnested, -⟩ | hinner⟩
  · rw [hpath] at hbreaks
    exact hbreaks.kind_of_nil
  · rw [hpath] at hnested
    cases hnested
  · obtain ⟨_, _, _, _, inner, -, -, hplace, -⟩ := hinner
    rw [hpath] at hplace
    cases hplace

/-! ## Nested messages by themselves -/

namespace Validator

variable {validator : Validator} {pool : Nat}

/-- A validator that has, or would find, the checks of a type has, or would find, those of the types
of nested messages as well. -/
theorem Settled.serves_nested (h : validator.Settled pool) {typeName nestedType : String}
    {message nested : Message} {place : FieldPath} (hserves : validator.Serves pool typeName)
    {checks : List Check} (hchecks : validator.sources.checksAt pool typeName = .ok checks)
    (hdescends : validator.sources.Descends pool typeName message place nestedType nested) :
    validator.Serves pool nestedType := by
  refine hserves.imp_right fun hcovers => ?_
  obtain ⟨schema, field, hschema, hfield, hget, htype, -⟩ := hdescends
  exact h.covers_of_leadsTo hcovers
    ((Sources.leadsTo_iff hchecks).mpr ⟨schema, field, hschema, hfield, hget, htype⟩)

/-- What a nested message comes to by itself, one level less deep, is what it comes to inside. -/
theorem Settled.report_nested (h : validator.Settled pool) {typeName : String}
    {message nested : Message} {place : FieldPath} (hserves : validator.Serves pool typeName)
    {checks : List Check} (hchecks : validator.sources.checksAt pool typeName = .ok checks)
    (hdescends : validator.sources.Descends pool typeName message place nested.typeName nested)
    {limit depth : Nat} {ws : List Violation}
    (hfound : ((validator.sources.checksAt pool).evaluate .collect limit depth nested.typeName
      nested).found = .ok ws) :
    (validator.report .collect depth pool nested).found = .ok ws := by
  rw [h.report_eq (h.serves_nested hserves hchecks hdescends)]
  rcases CheckTable.settles_evaluate limit depth (Nat.le_refl depth) with ⟨_, _, hdeep⟩ | heq
  · rw [hdeep] at hfound
    cases hfound
  · rw [heq]
    exact hfound

/-- The blocks in a message have what the nested messages come to by themselves, one level less
deep. -/
theorem Settled.exists_blocks (h : validator.Settled pool) {message : Message}
    (hconforms : validator.sources.Conforms pool message) {depth : Nat} {vs : List Violation}
    (hvs : (validator.report .collect (depth + 1) pool message).found = .ok vs) :
    ∃ schema before after, validator.sources.schemaAt pool message.typeName = .ok schema ∧
      (∀ nest ∈ schema.nests message, (validator.report .collect depth pool nest.2).found =
        .ok (validator.report .collect depth pool nest.2).listed) ∧
      vs = before ++ ((schema.nests message).flatMap fun nest => Violation.block message.typeName
        nest.1 (validator.report .collect depth pool nest.2).listed) ++ after ∧
      ∀ v ∈ before ++ after, v.messageType = message.typeName ∧
        schema.Breaks message v.path v.kind := by
  have hserves := serves_of_found hvs
  rw [h.report_eq hserves] at hvs
  obtain ⟨checks, hchecks⟩ := CheckTable.exists_checks_of_found hvs
  have hne : ∀ nestedType nested, (validator.sources.checksAt pool).evaluate .collect (depth + 1)
      depth nestedType nested ≠ .violations [] := fun nestedType nested =>
    (CheckTable.shortens_evaluate _ (depth + 1) depth nestedType nested).ne_violations_nil.1
  obtain ⟨schema, before, after, hschema, hinside, hblocks, hown⟩ :=
    Sources.exists_blocks hne hconforms hvs
  have halone : ∀ nest ∈ schema.nests message,
      (validator.report .collect depth pool nest.2).found =
        .ok ((validator.sources.checksAt pool).evaluate .collect (depth + 1) depth
          nest.2.typeName nest.2).listed := fun nest hnest =>
    h.report_nested hserves hchecks ((hconforms.mem_nests_iff hschema).mp hnest)
      (hinside nest hnest)
  refine ⟨schema, before, after, hschema, fun nest hnest => ?_, ?_, hown⟩
  · rw [listed_of_found (halone nest hnest)]
    exact halone nest hnest
  · rw [hblocks]
    congr 2
    refine List.flatMap_congr fun nest hnest => ?_
    rw [listed_of_found (halone nest hnest)]

/-- **Nested messages inside a message are as they are by themselves.**  A validator over one pool
collects the violations of a message, going down at least one level, and does not fail.

Then it does not fail on the nested messages into which the message asks for recursion either, when
they are validated by themselves one level less deep.  The violations of the message are those of
the constraints on it, and in between one block for each of these nested messages.  For each of
them, the violations outside its block do not concern it.  So if it has no violations by itself,
none says that it is broken and none lies inside it; and otherwise the only one that says so is the
first of its block, in which those that it has by itself follow. -/
theorem nested_violations_compose {catalog : Catalog} {options : List ValidatorOption}
    {history : List Request} {validator : Validator}
    (h : validator.Arises catalog options history) (hlinked : catalog.Linked 0)
    {message : Message} (hconforms : validator.sources.Conforms 0 message) {depth : Nat}
    {vs : List Violation}
    (hvs : (validator.report .collect (depth + 1) 0 message).found = .ok vs) :
    let alone := fun nested => (validator.report .collect depth 0 nested).listed
    ∃ (nests : List (FieldPath × Message)) (before after : List Violation),
      (∀ place nested, (place, nested) ∈ nests ↔ validator.sources.Descends 0 message.typeName
        message place nested.typeName nested) ∧
      (∀ place nested, (place, nested) ∈ nests →
        (validator.report .collect depth 0 nested).found = .ok (alone nested)) ∧
      vs = before ++ (nests.flatMap fun nest =>
        Violation.block message.typeName nest.1 (alone nest.2)) ++ after ∧
      (∀ v ∈ before ++ after, v.messageType = message.typeName ∧ v.kind ≠ .recurse ∧
        ∃ schema, validator.sources.schemaAt 0 message.typeName = .ok schema ∧
          schema.Breaks message v.path v.kind) ∧
      ∀ place nested, (place, nested) ∈ nests →
        (∃ front back, vs = front ++ Violation.block message.typeName place (alone nested) ++ back ∧
          ∀ v ∈ front ++ back, ¬ v.Inside place) ∧
        (alone nested = [] → ∀ v ∈ vs, ¬ v.Inside place) ∧
        ∀ v ∈ alone nested, v.kind = .recurse → v.path ≠ [] := by
  intro alone
  have hsettled : validator.Settled 0 := h.settled
  obtain ⟨schema, before, after, hschema, halone, hblocks, hown⟩ :=
    hsettled.exists_blocks hconforms hvs
  have hnames := Sources.names_schemaAt (h.catalog_eq.symm ▸ hlinked) hschema
  refine ⟨schema.nests message, before, after, fun place nested => hconforms.mem_nests_iff hschema,
    fun place nested hmem => halone (place, nested) hmem, hblocks, fun v hv => ?_, ?_⟩
  · obtain ⟨htype, hbreaks⟩ := hown v hv
    exact ⟨htype, hbreaks.kind_ne_recurse, schema, hschema, hbreaks⟩
  · intro place nested hmem
    obtain ⟨front, back, haround, houtside⟩ := MessageSchema.exists_around_block hnames
      (hconforms.fits hschema) (fun v hv => (hown v hv).2) alone message.typeName hmem
    refine ⟨⟨front, back, hblocks.trans haround, houtside⟩, fun hnone v hv => ?_, ?_⟩
    · rw [hblocks.trans haround, hnone] at hv
      exact houtside v (by simpa [Violation.block] using hv)
    · intro v hv hkind hpath
      have hfound := halone (place, nested) hmem
      have hevaluate : ((validator.sources.checksAt 0).evaluate .collect depth depth
          nested.typeName nested).found = .ok (alone nested) := by
        rw [← hsettled.report_eq (serves_of_found hfound)]
        exact hfound
      have hcombination := Sources.kind_of_path_nil hevaluate v hv hpath
      rw [hkind] at hcombination
      cases hcombination

end Validator

/-! ## A node with a child -/

namespace Sample

/-- A validator for nodes that has not been asked anything. -/
theorem arises_validator : validator.Arises catalog [rules] [] := ⟨by simp, _, rfl⟩

theorem report_node (depth : Nat) {message : Message} (htype : message.typeName = "Node") :
    validator.report .collect depth 0 message =
      (validator.sources.checksAt 0).evaluate .collect depth depth "Node" message := by
  rw [← htype]
  exact arises_validator.settled.report_eq (Or.inl rfl)

/-- Nodes fit their type, whatever their name, if their children are nodes. -/
theorem conforms_node {message : Message}
    (hchild : ∀ typeName fields, message.stored? 2 = some (.message typeName fields) →
      typeName = "Node")
    (hname : ∀ typeName fields, message.stored? 1 ≠ some (.message typeName fields)) :
    validator.sources.Conforms 0 message := by
  intro type htype field hfield
  obtain rfl := type?_catalog htype
  rcases List.mem_cons.mp hfield with rfl | hfield
  · refine ⟨fun place nested hnests => ?_, fun _ _ hshape => by cases hshape⟩
    cases hnests with
    | single _ hstored => exact absurd hstored (hname _ _)
    | element hshape => cases hshape
    | entry hshape => cases hshape
  · obtain rfl := List.mem_singleton.mp hfield
    refine ⟨fun place nested hnests => ?_, fun _ _ hshape => by cases hshape⟩
    cases hnests with
    | single _ hstored => rw [hchild _ _ hstored]; rfl
    | element hshape => cases hshape
    | entry hshape => cases hshape

theorem conforms_nameless : validator.sources.Conforms 0 nameless := by
  refine conforms_node ?_ ?_
  · intro typeName fields hstored
    cases hstored
    rfl
  · intro typeName fields hstored
    cases hstored

end Sample

namespace Validator

/-- The nameless node has the violation of its child, and nothing else about the child. -/
theorem nested_violations_compose_nameless :
    ∃ vs front back, (Sample.validator.report .collect 1 0 Sample.nameless).found = .ok vs ∧
      vs = front ++ Violation.block "Node" [.field "child"]
        (Sample.validator.report .collect 0 0 ⟨"Node", []⟩).listed ++ back ∧
      ∀ v ∈ front ++ back, ¬ v.Inside [.field "child"] := by
  have hfound : ∃ vs, (Sample.validator.report .collect 1 0 Sample.nameless).found = .ok vs := by
    rw [Sample.report_node 1 rfl]
    exact ⟨_, rfl⟩
  obtain ⟨vs, hvs⟩ := hfound
  obtain ⟨nests, before, after, hnests, -, -, -, hblock⟩ := nested_violations_compose
    Sample.arises_validator Sample.linked_catalog Sample.conforms_nameless hvs
  have hmem : ([.field "child"], ⟨"Node", []⟩) ∈ nests := (hnests _ _).mpr Sample.descends_child
  obtain ⟨⟨front, back, hsplit, houtside⟩, -, -⟩ := hblock _ _ hmem
  exact ⟨vs, front, back, hvs, hsplit, houtside⟩

end Validator

end MessageConstraints
