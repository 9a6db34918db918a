import MessageConstraints.Proofs.Linked
import MessageConstraints.Proofs.RuleSets

/-!
# Rules over options

A schema is resolved element by element, and each element is resolved in the same way: to the
constraints that its options declare, with those of the rules put over them
(`MessageSchema.resolveElement_eq_ok_iff`).  The three sorts of elements, a message, its fields and
its oneofs, are taken together here (`MessageType.Has`), so that when a type resolves, and to what,
is said once for all of them (`MessageSchema.resolve_overlays`).
-/

namespace MessageConstraints

/-! ## Elements -/

/-- The sort of an element that rules are attached to. -/
def RuleTarget.sort : RuleTarget → Target
  | message => .message
  | field _ => .field
  | oneof _ => .oneof

/-- The elements of a type that take constraints, with their full names and options: the message
itself, its fields, and its oneofs but for synthetic ones. -/
inductive MessageType.Has (type : MessageType) : RuleTarget → String → List OptionSetting → Prop
  | message : Has type .message type.fullName type.options
  | field {field : Field} :
      field ∈ type.fields → Has type (.field field.name) field.fullName field.options
  | oneof {oneof : Oneof} : oneof ∈ type.oneofs → oneof.isSynthetic = false →
      Has type (.oneof oneof.name) oneof.fullName oneof.options

/-- The elements of a schema with their full names, options and constraints. -/
inductive MessageSchema.Has (schema : MessageSchema) :
    RuleTarget → String → List OptionSetting → ConstraintSet → Prop
  | message :
      Has schema .message schema.type.fullName schema.type.options schema.constraints
  | field {field : FieldSchema} : field ∈ schema.fields →
      Has schema (.field field.name) field.field.fullName field.field.options field.constraints
  | oneof {oneof : OneofSchema} : oneof ∈ schema.oneofs →
      Has schema (.oneof oneof.oneof.name) oneof.oneof.fullName oneof.oneof.options
        oneof.constraints

namespace MessageType

variable {type : MessageType} {name : String}

theorem isSome_field?_iff :
    (type.field? name).isSome = true ↔ ∃ owner options, type.Has (.field name) owner options := by
  simp only [field?, List.find?_isSome, decide_eq_true_eq]
  constructor
  · rintro ⟨field, hfield, rfl⟩
    exact ⟨_, _, .field hfield⟩
  · rintro ⟨_, _, hhas⟩
    cases hhas with
    | field hfield => exact ⟨_, hfield, rfl⟩

theorem hasOneof_iff :
    type.hasOneof name = true ↔ ∃ owner options, type.Has (.oneof name) owner options := by
  simp only [hasOneof, List.any_eq_true, Bool.and_eq_true, Bool.not_eq_true', decide_eq_true_eq]
  constructor
  · rintro ⟨oneof, honeof, hreal, rfl⟩
    exact ⟨_, _, .oneof honeof hreal⟩
  · rintro ⟨_, _, hhas⟩
    cases hhas with
    | oneof honeof hreal => exact ⟨_, honeof, hreal, rfl⟩

end MessageType

/-! ## A single element -/

/-- Constraints of the right sort are put over those that are there, and others are refused. -/
theorem ConstraintSet.overlay_eq_ok_iff {target : Target} {owner : String}
    {set result : ConstraintSet} {rules : List Constraint} :
    set.overlay target owner rules = .ok result ↔
      (∀ c ∈ rules, c.kind.target = target) ∧ result = set.insertAll rules := by
  induction rules generalizing set with
  | nil => simp [overlay, insertAll, eq_comm]
  | cons c rest ih =>
    unfold overlay
    by_cases htarget : c.kind.target = target
    · rw [if_pos htarget, ih]
      simp [htarget, insertAll]
    · simp [htarget]

/-- What a set has after those of the rules for its element are added to it. -/
theorem ConstraintSet.get?_insertAll_rules (declared : ConstraintSet)
    (rules : Option ConstraintSet) (kind : ConstraintKind) :
    (declared.insertAll ((rules.map toList).getD [])).get? kind =
      (rules.bind fun added => added.get? kind).or (declared.get? kind) := by
  cases rules with
  | none => rfl
  | some added => exact get?_insertAll_toList declared added kind

namespace MessageSchema

variable {registry : Registry} {pool : Pool}

section

variable {target : Target} {owner : String} {options : List OptionSetting}
  {rules : Option ConstraintSet} {set : ConstraintSet}

/-- **How an element resolves**: its options load, the rules for it are of its sort, and they are
put over what the options declare. -/
theorem resolveElement_eq_ok_iff :
    resolveElement registry pool target owner options rules = .ok set ↔
      ∃ declared, ConstraintSet.ofOptions registry pool target owner options = .ok declared ∧
        (∀ kind c, (rules.bind fun added => added.get? kind) = some c → kind.target = target) ∧
        set = declared.insertAll ((rules.map ConstraintSet.toList).getD []) := by
  refine bind_eq_ok_iff.trans (exists_congr fun declared => and_congr_right fun _ => ?_)
  refine ConstraintSet.overlay_eq_ok_iff.trans (and_congr_left fun _ => ?_)
  cases rules with
  | none => exact iff_of_true (fun _ hmem => absurd hmem List.not_mem_nil) (fun _ _ h => by cases h)
  | some added =>
    constructor
    · intro hall kind c hget
      obtain rfl := ConstraintSet.kind_of_get? hget
      exact hall c (ConstraintSet.mem_toList_iff.mpr hget)
    · intro hall c hmem
      exact hall c.kind c (ConstraintSet.mem_toList_iff.mp hmem)

theorem exists_resolveElement_iff :
    (∃ set, resolveElement registry pool target owner options rules = .ok set) ↔
      (∃ declared, ConstraintSet.ofOptions registry pool target owner options = .ok declared) ∧
      ∀ kind c, (rules.bind fun added => added.get? kind) = some c → kind.target = target := by
  simp only [resolveElement_eq_ok_iff]
  constructor
  · rintro ⟨_, declared, hdeclared, hsort, -⟩
    exact ⟨⟨declared, hdeclared⟩, hsort⟩
  · rintro ⟨⟨declared, hdeclared⟩, hsort⟩
    exact ⟨_, declared, hdeclared, hsort, rfl⟩

end

/-! ## All elements -/

variable {rules : RuleSet} {type : MessageType} {schema : MessageSchema} {entry : MessageRules}

/-- The rules for a type name elements of it only. -/
theorem checkNames_eq_ok_iff :
    checkNames type entry = .ok () ↔
      ∀ element, (entry.at? element).isSome = true →
        ∃ owner options, type.Has element owner options := by
  have hnamed : ∀ (table : NameMap ConstraintSet) (known : String → Bool),
      (table.names.find? fun name => !known name) = none ↔
        ∀ name, (table.find? name).isSome = true → known name = true := by
    intro table known
    simp only [List.find?_eq_none, Bool.not_eq_true', Bool.not_eq_false]
    refine forall_congr' fun name => imp_congr_left ?_
    rw [← not_iff_not, ← NameMap.find?_eq_none_iff, Option.not_isSome_iff_eq_none]
  have hfields := hnamed entry.fields fun name => (type.field? name).isSome
  have honeofs := hnamed entry.oneofs type.hasOneof
  simp only [Option.not_isSome, MessageType.isSome_field?_iff] at hfields
  simp only [MessageType.hasOneof_iff] at honeofs
  unfold checkNames
  constructor
  · intro h element hnames
    split at h
    case h_1 => cases h
    case h_2 hnoField =>
      split at h
      case h_1 => cases h
      case h_2 hnoOneof =>
        cases element with
        | message => exact ⟨_, _, .message⟩
        | field name => exact hfields.mp hnoField name hnames
        | oneof name => exact honeofs.mp hnoOneof name hnames
  · intro h
    have hnoField := hfields.mpr fun name hname => h (.field name) hname
    have hnoOneof := honeofs.mpr fun name hname => h (.oneof name) hname
    simp only [hnoField, hnoOneof]

/-- A type resolves if each of its elements does and the rules name no others. -/
theorem exists_resolve_iff (hentry : entry = (rules.forMessage? type.fullName).getD .empty) :
    (∃ schema, resolve registry rules pool type = .ok schema) ↔
      (∀ element owner options, type.Has element owner options →
        ∃ set, resolveElement registry pool element.sort owner options (entry.at? element) =
          .ok set) ∧
      ∀ element, (entry.at? element).isSome = true →
        ∃ owner options, type.Has element owner options := by
  simp only [resolve_eq_ok_iff, ← hentry, ← checkNames_eq_ok_iff]
  constructor
  · rintro ⟨schema, -, hmessage, hnames, hfields, honeofs⟩
    refine ⟨fun element owner options hhas => ?_, hnames⟩
    cases hhas with
    | message => exact ⟨_, hmessage⟩
    | field hfield =>
      obtain ⟨resolved, hresolved⟩ := exists_forall₂_iff.mp ⟨_, hfields⟩ _ hfield
      exact ⟨_, (resolveField_eq_ok_iff.mp hresolved).2⟩
    | oneof honeof hreal =>
      have hmem := (List.mem_filter (p := (!·.isSynthetic))).mpr ⟨honeof, by rw [hreal]; rfl⟩
      obtain ⟨resolved, hresolved⟩ := exists_forall₂_iff.mp ⟨_, honeofs⟩ _ hmem
      exact ⟨_, (resolveOneof_eq_ok_iff.mp hresolved).2⟩
  · rintro ⟨hall, hnames⟩
    obtain ⟨constraints, hmessage⟩ := hall _ _ _ .message
    obtain ⟨fields, hfields⟩ : ∃ fields, List.Forall₂ (fun field resolved =>
        resolveField registry pool entry field = .ok resolved) type.fields fields := by
      refine exists_forall₂_iff.mpr fun field hfield => ?_
      obtain ⟨set, hset⟩ := hall _ _ _ (.field hfield)
      exact ⟨⟨field, set⟩, resolveField_eq_ok_iff.mpr ⟨rfl, hset⟩⟩
    obtain ⟨oneofs, honeofs⟩ : ∃ oneofs, List.Forall₂ (fun oneof resolved =>
        resolveOneof registry pool entry oneof = .ok resolved)
        (type.oneofs.filter (!·.isSynthetic)) oneofs := by
      refine exists_forall₂_iff.mpr fun oneof hmem => ?_
      obtain ⟨honeof, hreal⟩ := List.mem_filter.mp hmem
      obtain ⟨set, hset⟩ := hall _ _ _ (.oneof honeof (by simpa using hreal))
      exact ⟨⟨oneof, set⟩, resolveOneof_eq_ok_iff.mpr ⟨rfl, hset⟩⟩
    exact ⟨⟨type, fields, oneofs, constraints⟩, rfl, hmessage, hnames, hfields, honeofs⟩

/-- The elements of a resolved schema are resolved one by one. -/
theorem resolveElement_of_has (hentry : entry = (rules.forMessage? type.fullName).getD .empty)
    (h : resolve registry rules pool type = .ok schema) {element : RuleTarget} {owner : String}
    {options : List OptionSetting} {set : ConstraintSet}
    (hhas : schema.Has element owner options set) :
    resolveElement registry pool element.sort owner options (entry.at? element) = .ok set := by
  obtain ⟨rfl, hmessage, -, hfields, honeofs⟩ := resolve_eq_ok_iff.mp h
  subst hentry
  cases hhas with
  | message => exact hmessage
  | field hfield =>
    obtain ⟨_, -, hresolved⟩ := exists_source_of_mem hfields hfield
    obtain ⟨rfl, hset⟩ := resolveField_eq_ok_iff.mp hresolved
    exact hset
  | oneof honeof =>
    obtain ⟨_, -, hresolved⟩ := exists_source_of_mem honeofs honeof
    obtain ⟨rfl, hset⟩ := resolveOneof_eq_ok_iff.mp hresolved
    exact hset

/-- **Rules are put over options.**  A type resolves if and only if the options of all its elements
load, the rules for it name only elements that it has, and each of them is of a kind for elements
of this sort.  Elements are the message itself, its fields and its oneofs, synthetic ones apart.

Then the schema has the fields of the type and its oneofs but for synthetic ones, and each element
has for each kind the constraint that the rules have for it, or else the one that its options
declare, or else none.  All this depends only on the rules for the type itself, so that rules for
other names have no effect. -/
theorem resolve_overlays (registry : Registry) (rules : RuleSet) (pool : Pool)
    (type : MessageType) :
    ((∃ schema, resolve registry rules pool type = .ok schema) ↔
      (∀ element owner options, type.Has element owner options → ∃ declared,
        ConstraintSet.ofOptions registry pool element.sort owner options = .ok declared) ∧
      (∀ element, (rules.at? type.fullName element).isSome = true →
        ∃ owner options, type.Has element owner options) ∧
      ∀ element kind c, rules.rule? type.fullName element kind = some c →
        kind.target = element.sort) ∧
    (∀ schema, resolve registry rules pool type = .ok schema →
      schema.type = type ∧ schema.fields.map (·.field) = type.fields ∧
      schema.oneofs.map (·.oneof) = type.oneofs.filter (!·.isSynthetic) ∧
      ∀ element owner options set, schema.Has element owner options set → ∃ declared,
        ConstraintSet.ofOptions registry pool element.sort owner options = .ok declared ∧
        ∀ kind, set.get? kind =
          (rules.rule? type.fullName element kind).or (declared.get? kind)) ∧
    ∀ other : RuleSet, other.forMessage? type.fullName = rules.forMessage? type.fullName →
      resolve registry other pool type = resolve registry rules pool type := by
  obtain ⟨entry, hentry⟩ : ∃ entry, entry = (rules.forMessage? type.fullName).getD .empty :=
    ⟨_, rfl⟩
  have hrule : ∀ element kind, rules.rule? type.fullName element kind =
      (entry.at? element).bind fun set => set.get? kind := by
    intro element kind
    rw [hentry, RuleSet.rule?_eq_bind]
  -- A message without rules has the empty ones, which name nothing but the message itself.
  have hnames : ∀ element, (entry.at? element).isSome = true ↔
      element = .message ∨ (rules.at? type.fullName element).isSome = true := by
    intro element
    rw [hentry, RuleSet.at?]
    cases rules.forMessage? type.fullName <;> cases element <;>
      simp [MessageRules.at?, MessageRules.empty]
  refine ⟨?_, fun schema h => ?_, fun other hother => ?_⟩
  · rw [exists_resolve_iff hentry]
    simp only [exists_resolveElement_iff, hnames, ← hrule]
    constructor
    · rintro ⟨hall, hknown⟩
      refine ⟨fun element owner options hhas => (hall element owner options hhas).1,
        fun element hnamed => hknown element (Or.inr hnamed), fun element kind c hsome => ?_⟩
      obtain ⟨set, hset, -⟩ := Option.bind_eq_some_iff.mp hsome
      obtain ⟨owner, options, hhas⟩ := hknown element (Or.inr (by rw [hset]; rfl))
      exact (hall element owner options hhas).2 kind c hsome
    · rintro ⟨hload, hknown, hsort⟩
      refine ⟨fun element owner options hhas =>
        ⟨hload element owner options hhas, hsort element⟩, ?_⟩
      rintro element (rfl | hnamed)
      · exact ⟨_, _, .message⟩
      · exact hknown element hnamed
  · obtain ⟨htype, hfields, honeofs⟩ := resolve_eq_ok h
    refine ⟨htype, hfields, honeofs, fun element owner options set hhas => ?_⟩
    obtain ⟨declared, hdeclared, -, rfl⟩ :=
      resolveElement_eq_ok_iff.mp (resolveElement_of_has hentry h hhas)
    refine ⟨declared, hdeclared, fun kind => ?_⟩
    rw [ConstraintSet.get?_insertAll_rules, hrule]
  · rw [resolve, resolve, hother]

/-- The name of a node is required where the rules say so, whatever they say about leaves. -/
theorem resolve_overlays_node :
    let rules := RuleSet.ofList
      [⟨"Node", .field "name", .required true⟩, ⟨"Leaf", .field "size", .required true⟩]
    ∃ schema, resolve .default rules .empty Sample.nodeType = .ok schema ∧
      ∃ set, schema.Has (.field "name") "Node.name" [] set ∧
        set.get? .required = some (.required true) := by
  intro rules
  obtain ⟨-, hschema, -⟩ := resolve_overlays .default rules .empty Sample.nodeType
  let named : FieldSchema :=
    ⟨⟨"name", "Node.name", "name", 1, .scalar .string, .singular, none, []⟩,
      .ofList [.required true]⟩
  let schema : MessageSchema :=
    ⟨Sample.nodeType, [named, ⟨Sample.nodeType.fields[1], .empty⟩], [], .empty⟩
  have hresolve : resolve .default rules .empty Sample.nodeType = .ok schema := rfl
  have hnamed : named ∈ schema.fields := List.mem_cons_self
  obtain ⟨-, -, -, hoverlay⟩ := hschema schema hresolve
  obtain ⟨declared, -, hget⟩ := hoverlay _ _ _ _ (.field hnamed)
  exact ⟨schema, hresolve, _, .field hnamed, hget .required⟩

end MessageSchema

end MessageConstraints
