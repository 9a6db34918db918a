import MessageConstraints.Proofs.Composition

/-!
# Required fields in which nothing is stored

Whether a field is set is told from what is read from it, and what is read from a field in which
nothing is stored is its default.  So an absent field counts as unset if its default does
(`Field.Blank`, `Message.isSet_eq_false_iff_blank`).  Defaults are zero or empty unless a field
declares another one or an enum starts with another number; for such a field, nothing tells that it
is absent.

What is reported at a field of a message are the constraints on the message itself that are broken
there (`Sources.listed_field_iff`), so that a required field that is absent is reported exactly if
it is blank (`Validator.required_absent_iff_blank`).
-/

namespace MessageConstraints

/-! ## What is read from absent fields -/

/-- What is read from a single field in which nothing is stored counts as unset: it is a message, a
zero or something empty, be it the default of its type or one that is declared. -/
inductive Field.Blank (field : Field) : Prop
  | message {fullName : String} : field.type = .message fullName → Blank field
  | scalar {type : ScalarType} :
      field.type = .scalar type → field.declaredDefault = none → Blank field
  | enum {type : EnumType} :
      field.type = .enum type → field.declaredDefault = none → type.firstNumber = 0 → Blank field
  | declared {value : Value} :
      field.declaredDefault = some value → value.isSet = false → Blank field

/-- The zero of a scalar type counts as unset, that of truth values apart. -/
theorem ScalarType.isSet_zero {type : ScalarType} (hbool : type ≠ .bool) :
    type.zero.isSet = false := by
  cases type <;> first | exact absurd rfl hbool | decide

namespace Field

variable {field : Field}

/-- Where a default is declared, it decides. -/
theorem blank_iff_of_declared {value : Value} (hnested : field.nested? = none)
    (hdefault : field.declaredDefault = some value) : field.Blank ↔ value.isSet = false := by
  refine ⟨fun hblank => ?_, fun hunset => .declared hdefault hunset⟩
  cases hblank with
  | message htype =>
    rw [nested?, htype] at hnested
    cases hnested
  | scalar _ hnone => cases hdefault.symm.trans hnone
  | enum _ hnone => cases hdefault.symm.trans hnone
  | declared hdeclared hunset =>
    obtain rfl := Option.some.inj (hdefault.symm.trans hdeclared)
    exact hunset

/-- Where none is declared, the zero of the type decides. -/
theorem blank_iff_of_not_declared (hnested : field.nested? = none)
    (hbool : field.type ≠ .scalar .bool) (hdefault : field.declaredDefault = none) :
    field.Blank ↔ field.type.zero.isSet = false := by
  cases htype : field.type with
  | message fullName =>
    rw [nested?, htype] at hnested
    cases hnested
  | scalar type =>
    have hunset : type.zero.isSet = false :=
      ScalarType.isSet_zero fun heq => hbool (by rw [htype, heq])
    exact iff_of_true (.scalar htype hdefault) hunset
  | enum type =>
    have hnumber : (FieldType.enum type).zero.isSet = false ↔ type.firstNumber = 0 := by
      simp [FieldType.zero, Value.isSet]
    refine Iff.trans ⟨fun hblank => ?_, fun hzero => .enum htype hdefault hzero⟩ hnumber.symm
    cases hblank with
    | message h => cases htype.symm.trans h
    | scalar h => cases htype.symm.trans h
    | enum h _ hzero =>
      obtain rfl := FieldType.enum.inj (htype.symm.trans h)
      exact hzero
    | declared h => cases hdefault.symm.trans h

end Field

/-- **A single field in which nothing is stored is unset exactly if it is blank.** -/
theorem Message.isSet_eq_false_iff_blank {message : Message} {field : Field}
    (hshape : field.shape = .singular) (hbool : field.type ≠ .scalar .bool)
    (habsent : message.stored? field.number = none) :
    message.isSet field = false ↔ field.Blank := by
  cases hnested : field.nested? with
  | some fullName =>
    have htype : field.type = .message fullName := by
      unfold Field.nested? at hnested
      split at hnested
      case h_1 htype => rw [htype, Option.some.inj hnested]
      case h_2 => cases hnested
    have hunset : message.isSet field = false := by simp [isSet, hshape, htype, holds, habsent]
    exact iff_of_true hunset (.message htype)
  | none =>
    have hisSet : message.isSet field = (field.declaredDefault.getD field.type.zero).isSet := by
      have hget : message.get field = field.declaredDefault.getD field.type.zero := by
        rw [get, habsent, Field.default, hshape]
        rfl
      rw [isSet, hget]
      split
      case h_1 htype => simp [Field.nested?, htype] at hnested
      case h_2 => rfl
    rw [hisSet]
    cases hdefault : field.declaredDefault with
    | some value => exact (Field.blank_iff_of_declared hnested hdefault).symm
    | none => exact (Field.blank_iff_of_not_declared hnested hbool hdefault).symm

/-! ## What is reported at a field -/

open Outcome

/-- **At a field of a message, the constraints on the message itself are reported where they are
broken.**  Nothing that nested messages come to lies there, but for recursion, and a combination of
fields is not about a single one. -/
theorem Sources.listed_field_iff {sources : Sources} {pool limit levels : Nat} {typeName : String}
    {message : Message} {vs : List Violation}
    (h : ((sources.checksAt pool).evaluate .collect limit levels typeName message).found = .ok vs)
    {schema : MessageSchema} (hschema : sources.schemaAt pool typeName = .ok schema)
    {name : String} {kind : ConstraintKind} (hrecurse : kind ≠ .recurse)
    (hcombination : kind ≠ .combination) :
    Violation.Listed vs [.field name] kind ↔ schema.Breaks message [.field name] kind := by
  constructor
  · rintro ⟨v, hv, hpath, rfl⟩
    rcases origin_of_mem h hschema hv with hbreaks | ⟨_, steps, ⟨-, hnested⟩ | hinner⟩
    · rwa [hpath] at hbreaks
    · exact absurd hnested hrecurse
    · obtain ⟨below, nestedType, nested, ws, inner, hws, hmem, hplace, hkind⟩ := hinner
      rw [hpath, List.cons_append] at hplace
      have hnone : inner.path = [] :=
        (List.append_eq_nil_iff.mp (List.cons.inj hplace).2.symm).2
      exact absurd (hkind.trans (kind_of_path_nil hws inner hmem hnone)) hcombination
  · intro hbreaks
    obtain ⟨visit, -, -, hevaluate⟩ := (sources.checksAt pool).exists_visit limit levels
    rw [hevaluate] at h
    obtain ⟨_, hschema', hsites, rfl⟩ := violations_judge h
    obtain rfl : schema = _ := Except.ok.inj (hschema.symm.trans hschema')
    obtain ⟨site, hsite, hkind, hbroken⟩ := MessageSchema.breaks_iff_sites.mp hbreaks
    obtain ⟨⟨check, hcompile⟩, -⟩ := hsites site hsite
    have hown : site.constraint ≠ .recurse true := by
      intro heq
      rw [heq] at hkind
      exact hrecurse hkind
    obtain ⟨v, hv, hlisted⟩ :=
      (Site.listed_violations_iff hown hcompile).mpr ⟨hkind, hbroken⟩
    exact ⟨v, List.mem_flatMap.mpr ⟨site, hsite, hv⟩, hlisted⟩

/-- A field that is required breaks this exactly if it is unset. -/
theorem MessageSchema.breaks_required_iff {schema : MessageSchema} {message : Message}
    (hnames : (schema.fields.map (·.name)).Nodup) {field : FieldSchema}
    (hfield : field ∈ schema.fields)
    (hrequired : field.constraints.get? .required = some (.required true)) :
    schema.Breaks message [.field field.name] .required ↔ message.isSet field.field = false := by
  constructor
  · intro hbreaks
    generalize hplace : [Segment.field field.name] = place at hbreaks
    generalize hkind : ConstraintKind.required = kind at hbreaks
    cases hbreaks with
    | @field other constraint _ hother _ hbroken =>
      cases constraint with
      | required on =>
        obtain ⟨-, rfl, hunset⟩ := hbroken
        have heq : field.name = other.name := Segment.field.inj (List.cons.inj hplace).1
        obtain rfl : field = other := List.inj_on_of_nodup_map hnames hfield hother heq
        exact hunset
      | _ => cases hkind
    | oneof _ _ hbroken => cases hkind ▸ hbroken.target_eq
    | message _ hbroken => cases hkind ▸ hbroken.target_eq
  · intro hunset
    have hbroken : field.Breaks schema message (.required true) [.field field.name] :=
      ⟨rfl, rfl, hunset⟩
    exact @Breaks.field schema message field (.required true) _ hfield hrequired hbroken

namespace Validator

/-- **A required field that is absent is reported exactly if it is blank.**  A validator over one
pool collects the violations of a message and does not fail.  At a single field that is required,
that does not hold a truth value and under whose number nothing is stored, a violation says that it
is required if and only if what is read from it instead counts as unset: always in a field of
messages, and in other fields unless they declare a default that counts as set, or declare none and
are of an enum whose first number is not zero. -/
theorem required_absent_iff_blank {catalog : Catalog} {options : List ValidatorOption}
    {history : List Request} {validator : Validator}
    (h : validator.Arises catalog options history) (hlinked : catalog.Linked 0)
    {message : Message} {depth : Nat} {vs : List Violation}
    (hvs : (validator.report .collect depth 0 message).found = .ok vs) {schema : MessageSchema}
    (hschema : validator.sources.schemaAt 0 message.typeName = .ok schema) {field : FieldSchema}
    (hfield : field ∈ schema.fields)
    (hrequired : field.constraints.get? .required = some (.required true))
    (hshape : field.field.shape = .singular) (hbool : field.field.type ≠ .scalar .bool)
    (habsent : message.stored? field.field.number = none) :
    (∃ v ∈ vs, v.path = [.field field.name] ∧ v.rule = "required") ↔ field.field.Blank := by
  have hnames := Sources.names_schemaAt (h.catalog_eq.symm ▸ hlinked) hschema
  rw [h.settled.report_eq (serves_of_found hvs)] at hvs
  have hrule : ∀ v : Violation, v.rule = "required" ↔ v.kind = .required := fun v =>
    ⟨fun h => ConstraintKind.optionName_injective h, fun h => congrArg ConstraintKind.optionName h⟩
  have hlisted : Violation.Listed vs [.field field.name] .required ↔
      schema.Breaks message [.field field.name] .required :=
    Sources.listed_field_iff hvs hschema (by decide) (by decide)
  simp only [hrule]
  exact hlisted.trans ((MessageSchema.breaks_required_iff hnames hfield hrequired).trans
    (Message.isSet_eq_false_iff_blank hshape hbool habsent))

/-- A node without a name is told that it needs one. -/
theorem required_absent_iff_blank_node :
    ∃ vs, (Sample.validator.report .collect 0 0 ⟨"Node", []⟩).found = .ok vs ∧
      ∃ v ∈ vs, v.path = [.field "name"] ∧ v.rule = "required" := by
  have hfound : ∃ vs, (Sample.validator.report .collect 0 0 ⟨"Node", []⟩).found = .ok vs := by
    rw [Sample.report_node 0 rfl]
    exact ⟨_, rfl⟩
  obtain ⟨vs, hvs⟩ := hfound
  have hschema : Sample.validator.sources.schemaAt 0 "Node" = .ok _ := rfl
  exact ⟨vs, hvs, (required_absent_iff_blank Sample.arises_validator Sample.linked_catalog hvs
    hschema List.mem_cons_self rfl rfl (by simp) rfl).mpr (.scalar rfl rfl)⟩

end Validator

/-! ## A declared default hides that a field is absent -/

namespace Sample

/-- Clocks have an hour, which is twelve unless another one is given. -/
def clockType : MessageType where
  fullName := "Clock"
  fields := [⟨"hour", "Clock.hour", "hour", 1, .scalar .int32, .singular, some (.int32 12), []⟩]
  oneofs := []
  extensions := []
  options := []

/-- A validator for clocks that need an hour. -/
def clockValidator : Validator :=
  .withOptions (.single ⟨[("Clock", clockType)]⟩) .written
    [.rules (.ofList [⟨"Clock", .field "hour", .required true⟩])]

end Sample

namespace Validator

/-- A clock without an hour is not told that it needs one, although one is required. -/
theorem required_absent_clock :
    ∃ schema field, Sample.clockValidator.sources.schemaAt 0 "Clock" = .ok schema ∧
      field ∈ schema.fields ∧ field.constraints.get? .required = some (.required true) ∧
      field.field.shape = .singular ∧ field.field.type ≠ .scalar .bool ∧
      Message.stored? ⟨"Clock", []⟩ field.field.number = none ∧
      (Sample.clockValidator.report .collect 64 0 ⟨"Clock", []⟩).found = .ok [] := by
  have hsettled : Sample.clockValidator.Settled 0 := (withOptions_keeps _ _ _).settled
  refine ⟨_, _, rfl, List.mem_singleton_self _, rfl, rfl, by simp, rfl, ?_⟩
  rw [hsettled.report_eq (Or.inl rfl)]
  rfl

end Validator

end MessageConstraints
