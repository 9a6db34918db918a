import Mathlib.Tactic.Common
import MessageConstraints.Proofs.Admissible
import MessageConstraints.Proofs.Composition
import MessageConstraints.Proofs.Once

/-!
# Which types compile

A type whose schema resolves is compiled exactly if every constraint that is attached in it is
admissible, and otherwise it is refused for the first one that is not: constraints come by kind in
the order of evaluation, and within a kind by the position of their field or oneof
(`Compiled.decides_ofSchema`).  None is overlooked, because a schema that resolves has constraints
only on elements that their kinds belong to (`MessageSchema.onTarget_resolve`).

This is what every validator comes to that compiles the type, whatever it was asked before, because
all that it keeps and has compiled comes from the pools (`Store.Grounded`).  It is so for a type
that is asked for as well as for one that is met in another (`Validator.compiles_iff_admissible`).
-/

namespace MessageConstraints

/-! ## Constraints of resolved schemas -/

namespace ConstraintSet

variable {registry : Registry} {pool : Pool} {target : Target} {owner : String}
  {set result : ConstraintSet}

/-- All constraints of a set are for one sort of elements. -/
def AllFor (target : Target) (set : ConstraintSet) : Prop :=
  ∀ constraint ∈ set.toList, constraint.kind.target = target

theorem allFor_empty (target : Target) : empty.AllFor target := by
  intro constraint hmem
  cases hmem

theorem AllFor.insert (h : set.AllFor target) {constraint : Constraint}
    (hconstraint : constraint.kind.target = target) : (set.insert constraint).AllFor target := by
  intro other hother
  rcases mem_place hother with rfl | hbefore
  · exact hconstraint
  · exact h other hbefore

theorem AllFor.overlay (h : set.AllFor target) {rules : List Constraint}
    (hresult : set.overlay target owner rules = .ok result) : result.AllFor target := by
  induction rules generalizing set with
  | nil => exact Except.ok.inj hresult ▸ h
  | cons constraint rest ih =>
    unfold ConstraintSet.overlay at hresult
    split at hresult
    case isTrue hconstraint => exact ih (h.insert hconstraint) hresult
    case isFalse => cases hresult

/-- An option of a kind declares a constraint of the kind. -/
theorem kind_of_option {kind : ConstraintKind} {option : OptionValue} {constraint : Constraint}
    (h : option.constraint kind = .ok constraint) : constraint.kind = kind := by
  cases kind
  all_goals
    obtain ⟨_, -, rfl⟩ := map_eq_ok_iff.mp h
    rfl

/-- An option declares constraints only for the element that it is set on. -/
theorem target_of_option {setting : OptionSetting} {constraint : Constraint}
    (h : setting.constraint? registry pool target owner = .ok (some constraint)) :
    constraint.kind.target = target := by
  unfold OptionSetting.constraint? at h
  split at h
  case h_1 => cases h
  case h_2 => cases h
  case h_3 kind _ =>
    split at h
    case isFalse => cases h
    case isTrue htarget =>
      split at h
      case h_2 => cases h
      case h_1 declared hdeclared =>
        obtain rfl := Option.some.inj (Except.ok.inj h)
        rw [kind_of_option hdeclared, htarget]

theorem AllFor.addOptions (h : set.AllFor target) {options : List OptionSetting}
    (hresult : set.addOptions registry pool target owner options = .ok result) :
    result.AllFor target := by
  induction options generalizing set with
  | nil => exact Except.ok.inj hresult ▸ h
  | cons setting rest ih =>
    unfold ConstraintSet.addOptions at hresult
    split at hresult
    case h_1 => cases hresult
    case h_2 => exact ih h hresult
    case h_3 constraint hconstraint => exact ih (h.insert (target_of_option hconstraint)) hresult

end ConstraintSet

namespace MessageSchema

/-- Constraints are attached only to elements that their kinds belong to. -/
structure OnTarget (schema : MessageSchema) : Prop where
  fields : ∀ field ∈ schema.fields, field.constraints.AllFor .field
  oneofs : ∀ oneof ∈ schema.oneofs, oneof.constraints.AllFor .oneof
  message : schema.constraints.AllFor .message

variable {registry : Registry} {rules : RuleSet} {pool : Pool} {type : MessageType}
  {schema : MessageSchema}

theorem allFor_resolveElement {target : Target} {owner : String} {options : List OptionSetting}
    {rules : Option ConstraintSet} {set : ConstraintSet}
    (h : resolveElement registry pool target owner options rules = .ok set) :
    set.AllFor target := by
  obtain ⟨declared, hdeclared, hoverlay⟩ := bind_eq_ok_iff.mp h
  exact ((ConstraintSet.allFor_empty target).addOptions hdeclared).overlay hoverlay

/-- **A schema that resolves has every constraint where it belongs.** -/
theorem onTarget_resolve (h : resolve registry rules pool type = .ok schema) :
    schema.OnTarget := by
  obtain ⟨-, hconstraints, -, hfields, honeofs⟩ := resolve_eq_ok_iff.mp h
  refine ⟨fun field hfield => ?_, fun oneof honeof => ?_, allFor_resolveElement hconstraints⟩
  · obtain ⟨declared, -, hresolve⟩ := exists_source_of_mem hfields hfield
    exact allFor_resolveElement (resolveField_eq_ok_iff.mp hresolve).2
  · obtain ⟨declared, -, hresolve⟩ := exists_source_of_mem honeofs honeof
    exact allFor_resolveElement (resolveOneof_eq_ok_iff.mp hresolve).2

end MessageSchema

/-! ## The first constraint that is refused -/

/-- A constraint comes before another: by the kinds, then by the positions of the elements. -/
def Site.Before (site : Site) (position : Nat) (other : Site) (otherPosition : Nat) : Prop :=
  ConstraintKind.evaluationOrder.idxOf site.constraint.kind <
      ConstraintKind.evaluationOrder.idxOf other.constraint.kind ∨
    site.constraint.kind = other.constraint.kind ∧ position < otherPosition

namespace MessageSchema

/-- A constraint is attached to the element of a schema at a position. -/
def Carries (schema : MessageSchema) (position : Nat) : Site → Prop
  | .field field constraint =>
    schema.fields[position]? = some field ∧ constraint ∈ field.constraints.toList
  | .oneof oneof constraint =>
    schema.oneofs[position]? = some oneof ∧ constraint ∈ oneof.constraints.toList
  | .message constraint => position = 0 ∧ constraint ∈ schema.constraints.toList

/-- A constraint is refused for a reason, and all that come before it are admissible. -/
def FirstRefused (schema : MessageSchema) (cause : CompileError) : Prop :=
  ∃ position site, schema.Carries position site ∧ site.Refused schema cause ∧
    ∀ earlierPosition earlier, schema.Carries earlierPosition earlier →
      earlier.Before earlierPosition site position → earlier.Admissible schema

variable {schema : MessageSchema} {position : Nat} {site : Site}

theorem Carries.target_eq (h : schema.Carries position site) (htargets : schema.OnTarget) :
    site.constraint.kind.target = site.target := by
  cases site with
  | field field constraint => exact htargets.fields field (List.mem_of_getElem? h.1) _ h.2
  | oneof oneof constraint => exact htargets.oneofs oneof (List.mem_of_getElem? h.1) _ h.2
  | message constraint => exact htargets.message _ h.2

theorem Carries.mem_sites (h : schema.Carries position site) (htargets : schema.OnTarget) :
    site ∈ schema.sites := by
  have htarget := h.target_eq htargets
  refine MessageSchema.mem_sites.mpr ?_
  cases site with
  | field field constraint =>
    exact ⟨htarget, List.mem_of_getElem? h.1, ConstraintSet.mem_toList_iff.mp h.2⟩
  | oneof oneof constraint =>
    exact ⟨htarget, List.mem_of_getElem? h.1, ConstraintSet.mem_toList_iff.mp h.2⟩
  | message constraint => exact ⟨htarget, ConstraintSet.mem_toList_iff.mp h.2⟩

/-- Kind and position tell a constraint. -/
theorem Carries.unique {other : Site} (h : schema.Carries position site)
    (h' : schema.Carries position other) (htargets : schema.OnTarget)
    (hkind : site.constraint.kind = other.constraint.kind) : site = other := by
  have htarget : site.target = other.target := by
    rw [← h.target_eq htargets, ← h'.target_eq htargets, hkind]
  have hsame : ∀ {set : ConstraintSet} {c d : Constraint}, c ∈ set.toList → d ∈ set.toList →
      c.kind = d.kind → c = d := by
    intro set c d hc hd hkind
    have hget := ConstraintSet.mem_toList_iff.mp hc
    rw [hkind] at hget
    exact Option.some.inj (hget.symm.trans (ConstraintSet.mem_toList_iff.mp hd))
  cases site with
  | field field constraint =>
    cases other with
    | field field' constraint' =>
      obtain rfl : field = field' := Option.some.inj (h.1.symm.trans h'.1)
      rw [hsame h.2 h'.2 hkind]
    | _ => cases htarget
  | oneof oneof constraint =>
    cases other with
    | oneof oneof' constraint' =>
      obtain rfl : oneof = oneof' := Option.some.inj (h.1.symm.trans h'.1)
      rw [hsame h.2 h'.2 hkind]
    | _ => cases htarget
  | message constraint =>
    cases other with
    | message constraint' => rw [hsame h.2 h'.2 hkind]
    | _ => cases htarget

end MessageSchema

/-- Of two constraints at positions, one comes before the other, or kinds and positions agree. -/
theorem Site.before_trichotomy (site : Site) (position : Nat) (other : Site)
    (otherPosition : Nat) :
    site.Before position other otherPosition ∨ other.Before otherPosition site position ∨
      (site.constraint.kind = other.constraint.kind ∧ position = otherPosition) := by
  rcases Nat.lt_trichotomy (ConstraintKind.evaluationOrder.idxOf site.constraint.kind)
    (ConstraintKind.evaluationOrder.idxOf other.constraint.kind) with hlt | heq | hgt
  · exact Or.inl (Or.inl hlt)
  · have hkind := (List.idxOf_inj (ConstraintKind.mem_evaluationOrder _)).mp heq
    rcases Nat.lt_trichotomy position otherPosition with hlt | hsame | hgt
    · exact Or.inl (Or.inr ⟨hkind, hlt⟩)
    · exact Or.inr (Or.inr ⟨hkind, hsame⟩)
    · exact Or.inr (Or.inl (Or.inr ⟨hkind.symm, hgt⟩))
  · exact Or.inr (Or.inl (Or.inl hgt))

namespace MessageSchema

variable {schema : MessageSchema}

/-- Compiling a constraint that a resolved schema carries decides whether it is admissible. -/
theorem Carries.decides {position : Nat} {site : Site} (h : schema.Carries position site)
    (htargets : schema.OnTarget) :
    Decides (site.compile schema) (site.Admissible schema) (site.Refused schema) :=
  site.decides_compile schema (h.target_eq htargets)

/-- There is one first reason. -/
theorem FirstRefused.unique (htargets : schema.OnTarget) {cause cause' : CompileError}
    (h : schema.FirstRefused cause) (h' : schema.FirstRefused cause') : cause = cause' := by
  obtain ⟨position, site, hcarries, hrefused, hbefore⟩ := h
  obtain ⟨position', site', hcarries', hrefused', hbefore'⟩ := h'
  have hdecides := hcarries.decides htargets
  have hdecides' := hcarries'.decides htargets
  rcases site.before_trichotomy position site' position' with hlt | hgt | ⟨hkind, rfl⟩
  · exact absurd hrefused (hdecides.not_bad (hbefore' _ _ hcarries hlt) cause)
  · exact absurd hrefused' (hdecides'.not_bad (hbefore _ _ hcarries' hgt) cause')
  · obtain rfl := hcarries.unique hcarries' htargets hkind
    have herror := (hdecides.error_iff cause).mpr hrefused
    exact Except.error.inj (herror.symm.trans ((hdecides.error_iff cause').mpr hrefused'))

end MessageSchema

/-! ## Compiling in order -/

/-- The sites of a schema are compiled up to the first that has an error. -/
theorem Compiled.exists_first_of_error {schema : MessageSchema} {sites : List Site}
    {cause : CompileError} (h : (ofSites schema sites).error? = some cause) :
    ∃ before site after, sites = before ++ site :: after ∧ site.compile schema = .error cause ∧
      ∀ earlier ∈ before, ∃ check, earlier.compile schema = .ok check := by
  induction sites with
  | nil => cases h
  | cons first rest ih =>
    unfold ofSites at h
    cases hfirst : first.compile schema with
    | error other =>
      rw [hfirst] at h
      obtain rfl := Option.some.inj h
      exact ⟨[], first, rest, rfl, hfirst, by simp⟩
    | ok check =>
      rw [hfirst] at h
      obtain ⟨before, site, after, rfl, hsite, hbefore⟩ := ih h
      exact ⟨first :: before, site, after, rfl, hsite,
        List.forall_mem_cons.mpr ⟨⟨check, hfirst⟩, hbefore⟩⟩

/-- What comes before something in a list of lists is in an earlier list, or earlier in its own. -/
theorem flatMap_eq_append_cons {α β : Type} {inner : α → List β} {outer : List α}
    {before after : List β} {b : β} (h : outer.flatMap inner = before ++ b :: after) :
    ∃ pre a post left right, outer = pre ++ a :: post ∧ inner a = left ++ b :: right ∧
      before = pre.flatMap inner ++ left := by
  induction outer generalizing before with
  | nil => simp at h
  | cons a rest ih =>
    rw [List.flatMap_cons, List.append_eq_append_iff] at h
    rcases h with ⟨later, rfl, hrest⟩ | ⟨own, hinner, hafter⟩
    · obtain ⟨pre, a', post, left, right, rfl, hinner, rfl⟩ := ih hrest
      exact ⟨a :: pre, a', post, left, right, rfl, hinner, by simp⟩
    · cases own with
      | nil =>
        have hrest : rest.flatMap inner = [] ++ b :: after := hafter.symm
        obtain ⟨pre, a', post, left, right, rfl, hinner', hnil⟩ := ih hrest
        refine ⟨a :: pre, a', post, left, right, rfl, hinner', ?_⟩
        rw [List.flatMap_cons, List.append_assoc, ← hnil, hinner, List.append_nil, List.append_nil]
      | cons c own =>
        obtain ⟨rfl, -⟩ := List.cons.inj hafter
        exact ⟨[], a, rest, before, own, rfl, hinner, by simp⟩

/-- What has a smaller index than an element of a list comes before it. -/
theorem mem_of_idxOf_lt {α : Type} [DecidableEq α] {pre post : List α} {a b : α}
    (h : (pre ++ a :: post).idxOf b < (pre ++ a :: post).idxOf a) : b ∈ pre := by
  by_contra hnot
  have hle : (pre ++ a :: post).idxOf a ≤ pre.length := by
    by_cases ha : a ∈ pre
    · rw [List.idxOf_append_of_mem ha]
      exact List.idxOf_le_length
    · rw [List.idxOf_append_of_notMem ha, List.idxOf_cons_self]
      exact Nat.le_refl _
  rw [List.idxOf_append_of_notMem hnot] at h
  omega

/-- What is made of an element is made at its position, and of earlier ones before. -/
theorem filterMap_eq_append_cons {α β : Type} {make : α → Option β} {things : List α}
    {left right : List β} {b : β} (h : things.filterMap make = left ++ b :: right) :
    ∃ (position : Nat) (a : α), things[position]? = some a ∧ make a = some b ∧
      ∀ (i : Nat) (other : α), i < position → things[i]? = some other →
        ∀ made, make other = some made → made ∈ left := by
  obtain ⟨before, rest, rfl, hbefore, hrest⟩ := List.filterMap_eq_append_iff.mp h
  obtain ⟨skipped, a, after, rfl, hskipped, ha, -⟩ := List.filterMap_eq_cons_iff.mp hrest
  refine ⟨(before ++ skipped).length, a, ?_, ha, fun i other hlt hother made hmade => ?_⟩
  · simp
  · rw [← List.append_assoc, List.getElem?_append_left hlt] at hother
    rcases List.mem_append.mp (List.mem_of_getElem? hother) with hmem | hmem
    · rw [← hbefore]
      exact List.mem_filterMap.mpr ⟨other, hmem, hmade⟩
    · cases (hskipped other hmem).symm.trans hmade

namespace MessageSchema

variable {schema : MessageSchema} {kind : ConstraintKind} {site : Site}

theorem Carries.mem_sitesOf {position : Nat} (h : schema.Carries position site)
    (htargets : schema.OnTarget) : site ∈ schema.sitesOf site.constraint.kind := by
  obtain ⟨kind, -, hmem⟩ := List.mem_flatMap.mp (h.mem_sites htargets)
  rwa [kind_of_mem_sitesOf hmem]

/-- Where the constraints of a kind are taken from things one after the other, each comes from a
position, and after those of the same kind from the positions before it. -/
theorem exists_position_of_things {α : Type} {things : List α} {set : α → ConstraintSet}
    {make : α → Constraint → Site} {left right : List Site}
    (h : (things.filterMap fun thing => ((set thing).get? kind).map (make thing)) =
      left ++ site :: right) :
    ∃ (position : Nat) (thing : α) (constraint : Constraint), things[position]? = some thing ∧
      constraint ∈ (set thing).toList ∧ make thing constraint = site ∧
      ∀ (i : Nat) (other : α) (constraint' : Constraint), i < position →
        things[i]? = some other → constraint' ∈ (set other).toList →
        constraint'.kind = kind → make other constraint' ∈ left := by
  obtain ⟨position, thing, hthing, hmake, hleft⟩ := filterMap_eq_append_cons h
  obtain ⟨constraint, hget, hsite⟩ := Option.map_eq_some_iff.mp hmake
  refine ⟨position, thing, constraint, hthing, List.mem_of_find?_eq_some hget, hsite, ?_⟩
  intro i other constraint' hlt hother hmem hkind
  refine hleft i other hlt hother _ ?_
  rw [← hkind, ConstraintSet.mem_toList_iff.mp hmem]
  rfl

/-- The constraints of a kind are listed by position. -/
theorem exists_position_of_sitesOf (htargets : schema.OnTarget) {left right : List Site}
    (h : schema.sitesOf kind = left ++ site :: right) :
    ∃ position, schema.Carries position site ∧ ∀ i earlier, schema.Carries i earlier →
      earlier.constraint.kind = kind → i < position → earlier ∈ left := by
  have htarget : ∀ {i earlier}, schema.Carries i earlier → earlier.constraint.kind = kind →
      earlier.target = kind.target :=
    fun hcarries hkind => hkind ▸ (hcarries.target_eq htargets).symm
  cases hkind : kind.target with
  | field =>
    rw [sitesOf, hkind] at h
    obtain ⟨position, field, constraint, hfield, hmem, rfl, hleft⟩ := exists_position_of_things h
    refine ⟨position, ⟨hfield, hmem⟩, fun i earlier hcarries hof hlt => ?_⟩
    have hearlier := (htarget hcarries hof).trans hkind
    cases earlier with
    | field other constraint' => exact hleft i other constraint' hlt hcarries.1 hcarries.2 hof
    | _ => cases hearlier
  | oneof =>
    rw [sitesOf, hkind] at h
    obtain ⟨position, oneof, constraint, honeof, hmem, rfl, hleft⟩ := exists_position_of_things h
    refine ⟨position, ⟨honeof, hmem⟩, fun i earlier hcarries hof hlt => ?_⟩
    have hearlier := (htarget hcarries hof).trans hkind
    cases earlier with
    | oneof other constraint' => exact hleft i other constraint' hlt hcarries.1 hcarries.2 hof
    | _ => cases hearlier
  | message =>
    rw [sitesOf, hkind] at h
    have hmem : site ∈ ((schema.constraints.get? kind).map Site.message).toList :=
      Eq.subst (motive := (site ∈ ·)) h.symm (List.mem_append_right left List.mem_cons_self)
    obtain ⟨constraint, hget, rfl⟩ := Option.map_eq_some_iff.mp (Option.mem_toList.mp hmem)
    refine ⟨0, ⟨rfl, List.mem_of_find?_eq_some hget⟩, ?_⟩
    intro i earlier _ _ hlt
    cases hlt

/-- A constraint that is listed comes from a position, and after those that come before it. -/
theorem exists_position_of_sites (htargets : schema.OnTarget) {before after : List Site}
    (h : schema.sites = before ++ site :: after) :
    ∃ position, schema.Carries position site ∧ ∀ i earlier, schema.Carries i earlier →
      earlier.Before i site position → earlier ∈ before := by
  obtain ⟨pre, kind, post, left, right, horder, hkind, rfl⟩ := flatMap_eq_append_cons h
  obtain ⟨position, hcarries, hleft⟩ := exists_position_of_sitesOf htargets hkind
  obtain rfl : site.constraint.kind = kind :=
    kind_of_mem_sitesOf (hkind ▸ List.mem_append_right left List.mem_cons_self)
  refine ⟨position, hcarries, fun i earlier hearlier hlt => List.mem_append.mpr ?_⟩
  rcases hlt with hkinds | ⟨hsame, hpositions⟩
  · rw [horder] at hkinds
    exact Or.inl (List.mem_flatMap.mpr ⟨_, mem_of_idxOf_lt hkinds, hearlier.mem_sitesOf htargets⟩)
  · exact Or.inr (hleft i earlier hearlier hsame hpositions)

/-- **The error of a schema is that of the first constraint that is refused.** -/
theorem firstRefused_of_error (htargets : schema.OnTarget) {cause : CompileError}
    (h : (Compiled.ofSchema schema).error? = some cause) : schema.FirstRefused cause := by
  obtain ⟨before, site, after, hsites, hsite, hbefore⟩ := Compiled.exists_first_of_error h
  obtain ⟨position, hcarries, hearlier⟩ := exists_position_of_sites htargets hsites
  refine ⟨position, site, hcarries, ((hcarries.decides htargets).error_iff cause).mp hsite, ?_⟩
  intro i earlier hcarried hlt
  exact (hcarried.decides htargets).ok_iff.mp (hbefore earlier (hearlier i earlier hcarried hlt))

end MessageSchema

/-- **A schema compiles exactly if all its constraints are admissible**, and otherwise has the error
of the first one that is refused. -/
theorem Compiled.decides_ofSchema {schema : MessageSchema} (htargets : schema.OnTarget) :
    Decides (ofSchema schema).result
      (∀ position site, schema.Carries position site → site.Admissible schema)
      schema.FirstRefused := by
  cases herror : (ofSchema schema).error? with
  | some cause =>
    have hfirst := MessageSchema.firstRefused_of_error htargets herror
    have hbad : ¬ ∀ position site, schema.Carries position site → site.Admissible schema := by
      intro hall
      obtain ⟨position, site, hcarries, hrefused, -⟩ := hfirst
      exact (hcarries.decides htargets).not_bad (hall position site hcarries) cause hrefused
    rw [result, herror]
    exact .error cause hbad fun other => ⟨fun h => h.unique htargets hfirst, fun h => h ▸ hfirst⟩
  | none =>
    have hall : ∀ position site, schema.Carries position site → site.Admissible schema :=
      fun position site hcarries => (hcarries.decides htargets).ok_iff.mp
        (exists_compile_of_mem herror (hcarries.mem_sites htargets))
    rw [result, herror]
    refine .ok _ hall fun cause hfirst => ?_
    obtain ⟨position, site, hcarries, hrefused, -⟩ := hfirst
    exact (hcarries.decides htargets).not_bad (hall position site hcarries) cause hrefused

/-! ## What is kept and compiled comes from a pool -/

namespace Sources

variable {sources : Sources} {pool : Nat} {name : String} {schema : MessageSchema}

theorem onTarget_schemaAt (h : sources.schemaAt pool name = .ok schema) : schema.OnTarget := by
  obtain ⟨type, -, hresolve⟩ := resolve_of_schemaAt h
  exact MessageSchema.onTarget_resolve hresolve

/-- **What a name stands for is decided by its schema.** -/
theorem decides_compiledAt (h : sources.schemaAt pool name = .ok schema) :
    Decides (sources.compiledAt pool name).result
      (∀ position site, schema.Carries position site → site.Admissible schema)
      schema.FirstRefused := by
  rw [compiledAt, h]
  exact Compiled.decides_ofSchema (onTarget_schemaAt h)

end Sources

namespace Store

variable {sources : Sources} {store : Store} {ref : TypeRef} {placed : PlacedSchema}

/-- Whatever a store has comes from some pool in which the name is declared. -/
structure Grounded (sources : Sources) (store : Store) : Prop where
  schema_eq : ∀ {name placed}, store.schemas.find? name = some placed →
    sources.schemaAt placed.pool name = .ok placed.schema
  compiled_eq : ∀ {name compiled}, store.compiled.find? name = some compiled →
    ∃ pool, sources.Declares pool name ∧ compiled = sources.compiledAt pool name

theorem grounded_empty (sources : Sources) : Grounded sources empty where
  schema_eq h := by simp [empty] at h
  compiled_eq h := by simp [empty] at h

theorem Grounded.resolve (h : store.Grounded sources) (ref : TypeRef) :
    (store.resolve sources ref).1.Grounded sources := by
  refine ⟨fun {name placed} hplaced => ?_, fun {name compiled} hcompiled => ?_⟩
  · unfold Store.resolve at hplaced
    split at hplaced
    case h_1 => exact h.schema_eq hplaced
    case h_2 =>
      split at hplaced
      case h_1 => exact h.schema_eq hplaced
      case h_2 => exact h.schema_eq hplaced
      case h_3 schema hschema =>
        rw [NameMap.find?_insert] at hplaced
        by_cases hname : ref.name = name
        · rw [if_pos hname] at hplaced
          obtain rfl := Option.some.inj hplaced
          subst hname
          exact congrArg (·.getD (.error (.notCompiled ref.name))) hschema
        · rw [if_neg hname] at hplaced
          exact h.schema_eq hplaced
  · rw [compiled_resolve] at hcompiled
    exact h.compiled_eq hcompiled

/-- A schema that is found is that of the name in its pool. -/
theorem Grounded.schemaAt_eq (h : store.Grounded sources)
    (hplaced : (store.resolve sources ref).2 = .ok placed) :
    sources.schemaAt placed.pool ref.name = .ok placed.schema :=
  (h.resolve ref).schema_eq (find?_schemas_resolve sources hplaced)

/-- What a declared type compiles to is what its name stands for in some pool: its own, or the one
that the schema kept for the name comes from. -/
theorem Grounded.compileSchema_eq (h : store.Grounded sources)
    (hdeclared : sources.Declares ref.pool ref.name) :
    ∃ pool, sources.Declares pool ref.name ∧
      (compileSchema (store.resolve sources ref).2).1 = sources.compiledAt pool ref.name := by
  cases hfind : store.schemas.find? ref.name with
  | some placed =>
    have hschema := h.schema_eq hfind
    refine ⟨placed.pool, Sources.declares_of_schemaAt hschema, ?_⟩
    rw [Store.resolve, hfind, Sources.compiledAt, hschema]
    rfl
  | none =>
    refine ⟨ref.pool, hdeclared, ?_⟩
    rw [Store.resolve, hfind, Sources.compiledAt, Sources.schemaAt]
    rcases sources.schema? ref with _ | _ | _ <;> rfl

theorem Grounded.enter (h : store.Grounded sources) (hawaits : store.awaits sources ref = true) :
    (store.enter sources ref).1.Grounded sources := by
  refine ⟨fun hplaced => (h.resolve ref).schema_eq hplaced, fun {name compiled} hcompiled => ?_⟩
  rw [compiled_enter, NameMap.find?_insert] at hcompiled
  by_cases hname : ref.name = name
  · rw [if_pos hname] at hcompiled
    subst hname
    obtain rfl := Option.some.inj hcompiled
    simp only [awaits, Bool.and_eq_true] at hawaits
    exact h.compileSchema_eq hawaits.1
  · rw [if_neg hname] at hcompiled
    exact h.compiled_eq hcompiled

theorem invariant_grounded (sources : Sources) : Invariant sources (Grounded sources) where
  record _ _ h := ⟨h.schema_eq, h.compiled_eq⟩
  resolve _ ref h := h.resolve ref
  enter _ _ hawaits h := h.enter hawaits

/-! ## Compiling a type -/

/-- A type that awaits it is compiled to what its schema compiles to. -/
theorem checks_compile (hawaits : store.awaits sources ref = true)
    (hplaced : (store.resolve sources ref).2 = .ok placed) :
    (store.compile sources ref).checks ref.name = (Compiled.ofSchema placed.schema).result := by
  have hentered : (store.enter sources ref).1.compiled.find? ref.name =
      some (.ofSchema placed.schema) := by
    rw [compiled_enter, hplaced, NameMap.find?_insert, if_pos rfl]
    rfl
  have hextends : (store.compile sources ref).Extends (store.enter sources ref).1 := by
    rw [compile, run, dif_pos hawaits]
    exact (invariant_extends sources _).run fun _ _ h => h
  rw [checks, hextends ref.name _ hentered]

/-- Which types are compiled, and what their schemas are, does not depend on events. -/
theorem checks_compile_record (event : Event) (hawaits : store.awaits sources ref = true)
    (hplaced : (store.resolve sources ref).2 = .ok placed) :
    ((store.record event).compile sources ref).checks ref.name =
      (Compiled.ofSchema placed.schema).result := by
  refine checks_compile hawaits ?_
  rw [← hplaced]
  simp only [resolve, record]
  cases store.schemas.find? ref.name with
  | some kept => rfl
  | none => rcases sources.schema? ref with _ | _ | _ <;> rfl

end Store

namespace Validator

/-- A call that compiles a type leaves what the schema of the type compiles to. -/
theorem checks_perform {validator : Validator} {call : Call} {ref : TypeRef}
    (hcall : call.compiles? validator.isLazy = some ref)
    (hawaits : validator.store.awaits validator.sources ref = true) {schema : MessageSchema}
    (hschema : (validator.schema ref).2 = .ok schema) :
    (validator.perform call).store.checks ref.name = (Compiled.ofSchema schema).result := by
  obtain ⟨placed, hplaced, rfl⟩ := map_eq_ok_iff.mp hschema
  have hmessage : ∀ (pool : Nat) (message : Message) (options : List CallOption),
      (if validator.isLazy then some (TypeRef.mk pool message.typeName) else none) = some ref →
      (validator.validate pool message options).1.store.checks ref.name =
        (Compiled.ofSchema placed.schema).result := by
    intro pool message options hlazy
    split at hlazy
    case isFalse => cases hlazy
    case isTrue hlazy' =>
      obtain rfl := Option.some.inj hlazy
      rw [validate, load, if_pos hlazy']
      exact Store.checks_compile_record _ hawaits hplaced
  cases call with
  | preload other =>
    obtain rfl := Option.some.inj hcall
    exact Store.checks_compile hawaits hplaced
  | ask request =>
    cases request with
    | validate pool message options => exact hmessage pool message options hcall
    | violations pool message => exact hmessage pool message [] hcall
    | schema other => cases hcall

/-- **Exactly the types with admissible constraints compile.**  Take a validator that has been made
with some options and asked anything, of any pools.  A type that it has not compiled before and
whose schema resolves is compiled by the next call that asks for it exactly if every constraint that
is attached in it is admissible.  Otherwise its error is that of the first constraint that is not:
by the kinds in the order of evaluation, then by the positions of the fields and oneofs.  In the
same way everything that has been compiled so far, whether it was asked for or met in another type,
is decided by the schema of the type in a pool that declares it, if that resolves. -/
theorem compiles_iff_admissible (catalog : Catalog) (order : NameOrder)
    (options : List ValidatorOption) (calls : List Call) :
    let validator := (withOptions catalog order options).performAll calls
    (∀ call ref schema, call.compiles? validator.isLazy = some ref →
      validator.store.awaits validator.sources ref = true →
      (validator.schema ref).2 = .ok schema →
        Decides ((validator.perform call).store.checks ref.name)
          (∀ position site, schema.Carries position site → site.Admissible schema)
          schema.FirstRefused) ∧
    ∀ name outcome, validator.store.compiled.find? name = some outcome →
      ∃ pool, validator.sources.Declares pool name ∧
        outcome = validator.sources.compiledAt pool name ∧
        ∀ schema, validator.sources.schemaAt pool name = .ok schema →
          Decides outcome.result
            (∀ position site, schema.Carries position site → site.Admissible schema)
            schema.FirstRefused := by
  intro validator
  have hgrounded : validator.store.Grounded validator.sources :=
    holds_withOptions_performAll (Store.invariant_grounded _).callInvariant
      (Store.grounded_empty _)
  constructor
  · intro call ref schema hcall hawaits hschema
    obtain ⟨placed, hplaced, rfl⟩ := map_eq_ok_iff.mp hschema
    rw [checks_perform hcall hawaits hschema]
    exact Compiled.decides_ofSchema (Sources.onTarget_schemaAt (hgrounded.schemaAt_eq hplaced))
  · intro name outcome hfind
    obtain ⟨pool, hdeclared, rfl⟩ := hgrounded.compiled_eq hfind
    exact ⟨pool, hdeclared, rfl, fun schema hschema => Sources.decides_compiledAt hschema⟩

end Validator

/-! ## Nodes with a wrong rule -/

/-- A node needs a name, and its name, which is no list, has to be free of duplicates. -/
def Sample.wrongRules : ValidatorOption :=
  .rules (.ofList
    [⟨"Node", .field "name", .distinct true⟩, ⟨"Node", .field "name", .required true⟩])

namespace Validator

/-- With a wrong rule nodes are refused for it, although the other rule is admissible. -/
theorem compiles_iff_admissible_nodes :
    ((withOptions Sample.catalog .written [Sample.wrongRules]).perform
      (.preload ⟨0, "Node"⟩)).store.checks "Node" =
        .error (.unfitField "Node.name" .distinct .repeatedField) := by
  have hdecides := (compiles_iff_admissible Sample.catalog .written [Sample.wrongRules] []).1
    (.preload ⟨0, "Node"⟩) ⟨0, "Node"⟩ _ rfl rfl rfl
  refine (hdecides.error_iff _).mpr ⟨0, .field _ (.distinct true), ⟨rfl, ?_⟩, ⟨rfl, ?_, rfl⟩, ?_⟩
  · exact List.mem_cons_of_mem _ List.mem_cons_self
  · rintro ⟨⟩
  · intro i earlier hcarries hbefore
    cases earlier with
    | field field constraint =>
      obtain ⟨hfield, hmem⟩ := hcarries
      -- The name has the two rules, and the child has none.
      rcases List.mem_cons.mp (List.mem_of_getElem? hfield) with rfl | hchild
      · rcases List.mem_cons.mp hmem with rfl | hmem
        · exact trivial
        · obtain rfl := List.mem_singleton.mp hmem
          rcases hbefore with hlt | ⟨-, hlt⟩
          · exact absurd hlt (Nat.lt_irrefl _)
          · exact absurd hlt (Nat.not_lt_zero i)
      · obtain rfl := List.mem_singleton.mp hchild
        cases hmem
    | oneof oneof constraint => cases List.mem_of_getElem? hcarries.1
    | message constraint => cases hcarries.2

end Validator

end MessageConstraints
