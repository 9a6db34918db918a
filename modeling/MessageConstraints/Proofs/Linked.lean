import Mathlib.Data.List.Forall2
import Mathlib.Tactic.Common
import MessageConstraints.Proofs.Visiting

/-!
# Linked pools

Types of a pool refer to each other by name, and their fields and oneofs are told apart by name.  A
pool is linked if all these references and names are in order (`Catalog.Linked`).  The schema of a
type has the fields of the type and those of its oneofs that take constraints, in their order
(`Sources.fields_schemaAt`, `Sources.oneofs_schemaAt`), so that it can rely on them too.
-/

namespace MessageConstraints

/-- In a pool whose types are linked, the message types that fields name are declared, and no two
fields and no two oneofs of a type have the same name. -/
structure Catalog.Linked (catalog : Catalog) (pool : Nat) : Prop where
  nested_declared : ∀ name type, catalog.type? ⟨pool, name⟩ = some type → ∀ field ∈ type.fields,
    ∀ nested, field.nested? = some nested → (catalog.type? ⟨pool, nested⟩).isSome = true
  field_names : ∀ name type, catalog.type? ⟨pool, name⟩ = some type →
    (type.fields.map (·.name)).Nodup
  oneof_names : ∀ name type, catalog.type? ⟨pool, name⟩ = some type →
    (type.oneofs.map (·.name)).Nodup

/-! ## Schemas of types -/

theorem bind_eq_ok_iff {ε α β : Type} {result : Except ε α} {next : α → Except ε β} {b : β} :
    (result >>= next) = .ok b ↔ ∃ a, result = .ok a ∧ next a = .ok b := by
  cases result with
  | error cause => simp [bind, Except.bind]
  | ok a => simp [bind, Except.bind]

/-- What is made of the elements of a list one by one, up to the first error. -/
theorem mapM_eq_ok_iff {ε α β : Type} {make : α → Except ε β} {things : List α}
    {results : List β} :
    things.mapM make = .ok results ↔ List.Forall₂ (fun a b => make a = .ok b) things results := by
  induction things generalizing results with
  | nil =>
    rw [List.mapM_nil, List.forall₂_nil_left_iff]
    exact ⟨fun h => (Except.ok.inj h).symm, fun h => h ▸ rfl⟩
  | cons a rest ih =>
    simp only [List.mapM_cons, bind_eq_ok_iff, List.forall₂_cons_left_iff, ih]
    constructor
    · rintro ⟨b, hb, bs, hbs, heq⟩
      exact ⟨b, bs, hb, hbs, (Except.ok.inj heq).symm⟩
    · rintro ⟨b, bs, hb, hbs, rfl⟩
      exact ⟨b, hb, bs, hbs, rfl⟩

section

variable {α β : Type} {made : α → β → Prop} {things : List α} {results : List β}

/-- What is made of the elements of a list still shows them in their order. -/
theorem map_eq_of_forall₂ {source : β → α} (hsource : ∀ a b, made a b → source b = a)
    (h : List.Forall₂ made things results) : results.map source = things := by
  induction h with
  | nil => rfl
  | cons hfirst _ ih => rw [List.map_cons, hsource _ _ hfirst, ih]

/-- What is made of the elements of a list is made of one of them each. -/
theorem exists_source_of_mem (h : List.Forall₂ made things results) {b : β} (hb : b ∈ results) :
    ∃ a ∈ things, made a b := by
  induction h with
  | nil => cases hb
  | cons hfirst _ ih =>
    rcases List.mem_cons.mp hb with rfl | hmem
    · exact ⟨_, List.mem_cons_self, hfirst⟩
    · obtain ⟨a, ha, hmade⟩ := ih hmem
      exact ⟨a, List.mem_cons_of_mem _ ha, hmade⟩

/-- Something can be made of a list if it can of each element. -/
theorem exists_forall₂_iff :
    (∃ results, List.Forall₂ made things results) ↔ ∀ a ∈ things, ∃ b, made a b := by
  induction things with
  | nil => exact ⟨fun _ a ha => absurd ha List.not_mem_nil, fun _ => ⟨[], .nil⟩⟩
  | cons a rest ih =>
    simp only [List.forall₂_cons_left_iff, List.forall_mem_cons, ← ih]
    constructor
    · rintro ⟨_, b, bs, hb, hbs, rfl⟩
      exact ⟨⟨b, hb⟩, bs, hbs⟩
    · rintro ⟨⟨b, hb⟩, bs, hbs⟩
      exact ⟨_, b, bs, hb, hbs, rfl⟩

end

namespace MessageSchema

variable {registry : Registry} {rules : RuleSet} {pool : Pool} {type : MessageType}
  {schema : MessageSchema}

theorem resolveField_eq_ok_iff {entry : MessageRules} {field : Field} {resolved : FieldSchema} :
    resolveField registry pool entry field = .ok resolved ↔ resolved.field = field ∧
      resolveElement registry pool .field field.fullName field.options
        (entry.fields.find? field.name) = .ok resolved.constraints := by
  refine bind_eq_ok_iff.trans ⟨?_, ?_⟩
  · rintro ⟨constraints, hconstraints, heq⟩
    obtain rfl := Except.ok.inj heq
    exact ⟨rfl, hconstraints⟩
  · rintro ⟨rfl, hconstraints⟩
    exact ⟨_, hconstraints, rfl⟩

theorem resolveOneof_eq_ok_iff {entry : MessageRules} {oneof : Oneof} {resolved : OneofSchema} :
    resolveOneof registry pool entry oneof = .ok resolved ↔ resolved.oneof = oneof ∧
      resolveElement registry pool .oneof oneof.fullName oneof.options
        (entry.oneofs.find? oneof.name) = .ok resolved.constraints := by
  refine bind_eq_ok_iff.trans ⟨?_, ?_⟩
  · rintro ⟨constraints, hconstraints, heq⟩
    obtain rfl := Except.ok.inj heq
    exact ⟨rfl, hconstraints⟩
  · rintro ⟨rfl, hconstraints⟩
    exact ⟨_, hconstraints, rfl⟩

/-- **When a type resolves to a schema**: the elements do, one by one, and the rules for the type
name no others. -/
theorem resolve_eq_ok_iff :
    resolve registry rules pool type = .ok schema ↔
      let entry := (rules.forMessage? type.fullName).getD .empty
      schema.type = type ∧
      resolveElement registry pool .message type.fullName type.options (some entry.message) =
        .ok schema.constraints ∧
      checkNames type entry = .ok () ∧
      List.Forall₂ (fun field resolved => resolveField registry pool entry field = .ok resolved)
        type.fields schema.fields ∧
      List.Forall₂ (fun oneof resolved => resolveOneof registry pool entry oneof = .ok resolved)
        (type.oneofs.filter (!·.isSynthetic)) schema.oneofs := by
  unfold resolve
  simp only [bind_eq_ok_iff, mapM_eq_ok_iff]
  constructor
  · rintro ⟨constraints, hconstraints, ⟨⟩, hnames, fields, hfields, oneofs, honeofs, heq⟩
    obtain rfl := Except.ok.inj heq
    exact ⟨rfl, hconstraints, hnames, hfields, honeofs⟩
  · rintro ⟨rfl, hconstraints, hnames, hfields, honeofs⟩
    exact ⟨_, hconstraints, (), hnames, _, hfields, _, honeofs, rfl⟩

/-- A schema is one of its type, with the fields and the real oneofs of the type. -/
theorem resolve_eq_ok (h : resolve registry rules pool type = .ok schema) :
    schema.type = type ∧ schema.fields.map (·.field) = type.fields ∧
      schema.oneofs.map (·.oneof) = type.oneofs.filter (!·.isSynthetic) := by
  obtain ⟨htype, -, -, hfields, honeofs⟩ := resolve_eq_ok_iff.mp h
  refine ⟨htype, map_eq_of_forall₂ ?_ hfields, map_eq_of_forall₂ ?_ honeofs⟩
  · exact fun field resolved hresolved => (resolveField_eq_ok_iff.mp hresolved).1
  · exact fun oneof resolved hresolved => (resolveOneof_eq_ok_iff.mp hresolved).1

end MessageSchema

namespace Sources

variable {sources : Sources} {pool : Nat} {typeName : String} {schema : MessageSchema}

/-- A schema that is found by a name is resolved from the type that is declared by it. -/
theorem resolve_of_schemaAt (h : sources.schemaAt pool typeName = .ok schema) :
    ∃ type, sources.catalog.type? ⟨pool, typeName⟩ = some type ∧
      MessageSchema.resolve sources.registry sources.rules (sources.catalog.pool pool) type =
        .ok schema := by
  unfold schemaAt schema? at h
  cases htype : sources.catalog.type? ⟨pool, typeName⟩ with
  | none =>
    rw [htype] at h
    cases h
  | some type =>
    rw [htype] at h
    exact ⟨type, rfl, h⟩

theorem type_schemaAt (h : sources.schemaAt pool typeName = .ok schema) :
    sources.catalog.type? ⟨pool, typeName⟩ = some schema.type := by
  obtain ⟨type, htype, hresolve⟩ := resolve_of_schemaAt h
  rw [htype, (MessageSchema.resolve_eq_ok hresolve).1]

theorem declares_of_schemaAt (h : sources.schemaAt pool typeName = .ok schema) :
    sources.Declares pool typeName :=
  Option.isSome_iff_exists.mpr ⟨schema.type, type_schemaAt h⟩

theorem fields_schemaAt (h : sources.schemaAt pool typeName = .ok schema) :
    schema.fields.map (·.field) = schema.type.fields := by
  obtain ⟨type, -, hresolve⟩ := resolve_of_schemaAt h
  obtain ⟨rfl, hfields, -⟩ := MessageSchema.resolve_eq_ok hresolve
  exact hfields

/-- In a linked pool, the fields of a schema have different names. -/
theorem names_schemaAt (hlinked : sources.catalog.Linked pool)
    (h : sources.schemaAt pool typeName = .ok schema) : (schema.fields.map (·.name)).Nodup := by
  have hnames := hlinked.field_names typeName schema.type (type_schemaAt h)
  rw [← fields_schemaAt h, List.map_map] at hnames
  exact hnames

theorem oneofs_schemaAt (h : sources.schemaAt pool typeName = .ok schema) :
    schema.oneofs.map (·.oneof) = schema.type.oneofs.filter (!·.isSynthetic) := by
  obtain ⟨type, -, hresolve⟩ := resolve_of_schemaAt h
  obtain ⟨rfl, -, honeofs⟩ := MessageSchema.resolve_eq_ok hresolve
  exact honeofs

end Sources

end MessageConstraints
