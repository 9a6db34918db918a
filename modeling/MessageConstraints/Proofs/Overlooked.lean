import MessageConstraints.Proofs.MapOrder

/-!
# Fields that no rule looks at

The schema of a type says which of its fields are looked at: those that carry a constraint that
demands something, those that a combination names, the members of a oneof that has to be chosen
from, and the fields that others depend on, of which only presence matters.  What is stored in any
other field makes no difference (`MessageSchema.MayDiffer`), in the message as in the nested
messages that it is compared with (`Value.SeenAlike`).  Every constraint looks only at what is the
same in both (`Message.SeenAlike.agree`), so messages that are seen alike get the same answers from
every validator over one pool (`Validator.validate_eq_of_seenAlike`).
-/

namespace MessageConstraints

/-- A constraint demands nothing. -/
def Constraint.Idle (constraint : Constraint) : Prop :=
  constraint = .required false ∨ constraint = .distinct false ∨ constraint = .recurse false

namespace MessageSchema

/-- Only dependencies of other fields can look at what is stored under a number: no field with the
number carries a constraint that demands something or is named in the combination, and no oneof that
has to be chosen from has the number as a member. -/
structure Overlooks (schema : MessageSchema) (number : Nat) : Prop where
  idle : ∀ field ∈ schema.fields, field.field.number = number → ∀ kind constraint,
    field.constraints.get? kind = some constraint → constraint.Idle
  not_named : ∀ field ∈ schema.fields, field.field.number = number → ∀ source expression,
    schema.constraints.get? .combination = some (.combination source) →
    Combination.parse? source = some expression → field.name ∉ expression.names
  not_member : ∀ oneof ∈ schema.oneofs, ∀ rule,
    oneof.constraints.get? .choice = some (.choice rule) →
    rule.required = true → number ∉ oneof.oneof.members

/-- A field with a number is one that another field depends on. -/
def IsPartner (schema : MessageSchema) (number : Nat) : Prop :=
  ∃ field ∈ schema.fields, field.field.number = number ∧ ∃ other ∈ schema.fields, ∃ rule,
    other.constraints.get? .dependency = some (.dependency rule) ∧ rule.partner = field.name

/-- What two messages store under a number may differ: either no rule looks at it, or only
dependencies do, and they see a field that is set in both messages. -/
inductive MayDiffer (schema : MessageSchema) (message message' : Message) (number : Nat) : Prop
  | unseen : schema.Overlooks number → ¬ schema.IsPartner number →
      MayDiffer schema message message' number
  | partner : schema.Overlooks number →
      (∀ field ∈ schema.fields, field.field.number = number →
        message.isSet field.field = true ∧ message'.isSet field.field = true) →
      MayDiffer schema message message' number

theorem MayDiffer.overlooks {schema : MessageSchema} {message message' : Message} {number : Nat}
    (h : schema.MayDiffer message message' number) : schema.Overlooks number := by
  cases h with
  | unseen hoverlooks _ => exact hoverlooks
  | partner hoverlooks _ => exact hoverlooks

end MessageSchema

/-- Two values of a field of a shape and type differ at most in fields of messages, at any depth, in
which what is stored may differ by the schema of the message.  Nested messages are compared at the
same places, and the entries of a map by key. -/
inductive Value.SeenAlike (schemaOf : String → Except CompileError MessageSchema) :
    FieldShape → FieldType → Value → Value → Prop
  | refl (shape : FieldShape) (type : FieldType) (value : Value) :
      SeenAlike schemaOf shape type value value
  | list {type : FieldType} {items items' : List Value} :
      items.length = items'.length →
      (∀ item item', (item, item') ∈ items.zip items' →
        SeenAlike schemaOf .singular type item item') →
      SeenAlike schemaOf .list type (.list items) (.list items')
  | map {key : ScalarType} {type : FieldType} {entries middle entries' : List (MapKey × Value)} :
      entries.length = middle.length →
      (∀ entry entry', (entry, entry') ∈ entries.zip middle → entry.1 = entry'.1) →
      (∀ entry entry', (entry, entry') ∈ entries.zip middle →
        SeenAlike schemaOf .singular type entry.2 entry'.2) →
      SameEntries middle entries' →
      SeenAlike schemaOf (.map key) type (.map entries) (.map entries')
  | message {nested typeName : String} {schema : MessageSchema}
      {fields fields' : List (Nat × Value)} :
      schemaOf nested = .ok schema →
      (∀ number, ¬ schema.MayDiffer ⟨typeName, fields⟩ ⟨typeName, fields'⟩ number →
        (fields.lookup number).isSome = (fields'.lookup number).isSome) →
      (∀ field ∈ schema.fields,
        ¬ schema.MayDiffer ⟨typeName, fields⟩ ⟨typeName, fields'⟩ field.field.number →
        ∀ value value', fields.lookup field.field.number = some value →
          fields'.lookup field.field.number = some value' →
          SeenAlike schemaOf field.field.shape field.field.type value value') →
      SeenAlike schemaOf .singular (.message nested) (.message typeName fields)
        (.message typeName fields')

/-- Two messages of a type differ at most where no rule looks. -/
def Message.SeenAlike (schemaOf : String → Except CompileError MessageSchema) (typeName : String)
    (message message' : Message) : Prop :=
  Value.SeenAlike schemaOf .singular (.message typeName) message.toValue message'.toValue

variable {schemaOf : String → Except CompileError MessageSchema}

/-! ## Values -/

namespace Value.SeenAlike

variable {shape : FieldShape} {type : FieldType} {value value' : Value}

/-- Only messages have fields to differ in. -/
theorem eq (h : SeenAlike schemaOf shape type value value')
    (hshape : shape = .singular ∨ shape = .list) (htype : ∀ name, type ≠ .message name) :
    value = value' := by
  cases h with
  | refl => rfl
  | list hlength hitems =>
    have hequal : ∀ {item item'}, (item, item') ∈ _ → item = item' := fun hmem => by
      cases hitems _ _ hmem with
      | refl => rfl
      | message => exact absurd rfl (htype _)
    have hforall := List.forall₂_iff_zip.mpr ⟨hlength, hequal⟩
    rw [List.forall₂_eq_eq_eq] at hforall
    rw [hforall]
  | map => rcases hshape with hshape | hshape <;> cases hshape
  | message => exact absurd rfl (htype _)

/-- Values that are seen alike are of the same shape, and so is what they hold. -/
theorem parallel (h : SeenAlike schemaOf shape type value value') :
    Parallel (SeenAlike schemaOf .singular type) value value' := by
  cases h with
  | refl => exact .refl _
  | list hlength hitems => exact .list (List.forall₂_iff_zip.mpr ⟨hlength, @hitems⟩)
  | map hlength hkeys hvalues hsame =>
    exact .map (List.forall₂_iff_zip.mpr ⟨hlength, fun hmem =>
      ⟨hkeys _ _ hmem, hvalues _ _ hmem⟩⟩) hsame.mergeSort_eq
  | message => exact .message _ _ _

end Value.SeenAlike

/-! ## Messages -/

namespace Message.SeenAlike

variable {typeName : String} {schema : MessageSchema} {message message' : Message}
  {field : FieldSchema} {number : Nat}

theorem typeName_eq (h : Message.SeenAlike schemaOf typeName message message') :
    message.typeName = message'.typeName :=
  (Value.SeenAlike.parallel h).typeName_eq

/-- Where rules look, both messages store something or neither does. -/
theorem holds_eq (h : Message.SeenAlike schemaOf typeName message message')
    (hschema : schemaOf typeName = .ok schema)
    (hseen : ¬ schema.MayDiffer message message' number) :
    message.holds number = message'.holds number := by
  obtain ⟨name, fields⟩ := message
  obtain ⟨name', fields'⟩ := message'
  cases h with
  | refl => rfl
  | message hother hstored _ =>
    cases hother.symm.trans hschema
    exact hstored number hseen

/-- Where rules look, what the messages store is seen alike. -/
theorem stored (h : Message.SeenAlike schemaOf typeName message message')
    (hschema : schemaOf typeName = .ok schema) (hfield : field ∈ schema.fields)
    (hseen : ¬ schema.MayDiffer message message' field.field.number) :
    Option.Rel (Value.SeenAlike schemaOf field.field.shape field.field.type)
      (message.stored? field.field.number) (message'.stored? field.field.number) := by
  have hholds := h.holds_eq hschema hseen
  obtain ⟨name, fields⟩ := message
  obtain ⟨name', fields'⟩ := message'
  unfold Message.holds at hholds
  cases h with
  | refl =>
    generalize Message.stored? _ _ = stored
    cases stored with
    | none => exact .none
    | some value => exact .some (.refl _ _ value)
  | message hother _ hvalues =>
    cases hother.symm.trans hschema
    have hvalue := hvalues field hfield hseen
    unfold Message.stored? at hholds ⊢
    generalize fields.lookup field.field.number = stored at hholds hvalue
    generalize fields'.lookup field.field.number = stored' at hholds hvalue
    cases stored <;> cases stored' <;> cases hholds
    · exact .none
    · exact .some (hvalue _ _ rfl rfl)

theorem get (h : Message.SeenAlike schemaOf typeName message message')
    (hschema : schemaOf typeName = .ok schema) (hfield : field ∈ schema.fields)
    (hseen : ¬ schema.MayDiffer message message' field.field.number) :
    Value.SeenAlike schemaOf field.field.shape field.field.type (message.get field.field)
      (message'.get field.field) :=
  get_of_stored (.refl _ _) (h.stored hschema hfield hseen)

theorem isSet_eq (h : Message.SeenAlike schemaOf typeName message message')
    (hschema : schemaOf typeName = .ok schema) (hfield : field ∈ schema.fields)
    (hseen : ¬ schema.MayDiffer message message' field.field.number) :
    message.isSet field.field = message'.isSet field.field :=
  isSet_eq_of_parallel (fun _ _ _ => h.holds_eq hschema hseen)
    (h.get hschema hfield hseen).parallel

/-- A field that others depend on is set in both messages or in neither. -/
theorem isSet_partner (h : Message.SeenAlike schemaOf typeName message message')
    (hschema : schemaOf typeName = .ok schema) (hfield : field ∈ schema.fields)
    (hpartner : schema.IsPartner field.field.number) :
    message.isSet field.field = message'.isSet field.field := by
  by_cases hdiffer : schema.MayDiffer message message' field.field.number
  · cases hdiffer with
    | unseen _ hnot => exact absurd hpartner hnot
    | partner _ hset =>
      obtain ⟨hfirst, hsecond⟩ := hset field hfield rfl
      rw [hfirst, hsecond]
  · exact h.isSet_eq hschema hfield hdiffer

/-- The nested messages in a field that rules look at are seen alike, one by one and at the same
places. -/
theorem nestedMessages (h : Message.SeenAlike schemaOf typeName message message')
    (hschema : schemaOf typeName = .ok schema) (hfield : field ∈ schema.fields)
    (hseen : ¬ schema.MayDiffer message message' field.field.number) {nested : String}
    (hnested : field.field.type = .message nested) :
    List.Forall₂ (fun inner inner' => inner.1 = inner'.1 ∧
        Message.SeenAlike schemaOf nested inner.2 inner'.2)
      (Check.nestedMessages field.field message) (Check.nestedMessages field.field message') := by
  have hget := h.get hschema hfield hseen
  have hstored := h.stored hschema hfield hseen
  rw [hnested] at hget hstored
  refine Check.forall₂_nestedMessages (.refl _ _) (fun _ _ hvalue => hvalue.parallel)
    (fun hshape => ?_) hget.parallel
  rwa [hshape] at hstored

/-- **No constraint looks at what messages that are seen alike differ in.** -/
theorem agree (hschema : schemaOf typeName = .ok schema)
    (h : Message.SeenAlike schemaOf typeName message message') :
    ∀ site ∈ schema.sites,
      site.Agree (Message.SeenAlike schemaOf) schema message message' := by
  intro site hsite
  have hattached := MessageSchema.mem_sites.mp hsite
  cases site with
  | field field constraint =>
    obtain ⟨-, hfield, hget⟩ := hattached
    -- A field with a constraint that demands something is looked at.
    have hseen : ¬ constraint.Idle → ¬ schema.MayDiffer message message' field.field.number :=
      fun hdemands hdiffer => hdemands (hdiffer.overlooks.idle field hfield rfl _ _ hget)
    have hvalue : ¬ constraint.Idle → field.field.IsPlain → field.messageType? = none →
        message.get field.field = message'.get field.field := by
      intro hdemands hplain hnone
      refine (h.get hschema hfield (hseen hdemands)).eq hplain fun name hname => ?_
      rw [FieldSchema.messageType?_eq_some_iff.mpr hname] at hnone
      cases hnone
    cases constraint with
    | required on =>
      rintro rfl
      exact h.isSet_eq hschema hfield (hseen (by simp [Constraint.Idle]))
    | pattern rule => exact hvalue (by simp [Constraint.Idle])
    | min rule => exact hvalue (by simp [Constraint.Idle])
    | max rule => exact hvalue (by simp [Constraint.Idle])
    | range source => exact hvalue (by simp [Constraint.Idle])
    | distinct on =>
      rintro rfl
      exact hvalue (by simp [Constraint.Idle])
    | dependency rule =>
      refine ⟨h.isSet_eq hschema hfield (hseen (by simp [Constraint.Idle])),
        fun partner hpartner => ?_⟩
      have hmem : partner ∈ schema.fields := List.mem_of_find?_eq_some hpartner
      have hname : partner.name = rule.partner := by simpa using List.find?_some hpartner
      exact h.isSet_partner hschema hmem
        ⟨partner, hmem, rfl, field, hfield, rule, hget, hname.symm⟩
    | recurse on =>
      rintro rfl nested hnested
      exact h.nestedMessages hschema hfield (hseen (by simp [Constraint.Idle]))
        (FieldSchema.messageType?_eq_some_iff.mp hnested)
    | choice rule => trivial
    | combination source => trivial
  | oneof oneof constraint =>
    cases constraint with
    | choice rule =>
      obtain ⟨-, honeof, hget⟩ := hattached
      intro hrequired number hnumber
      exact h.holds_eq hschema fun hdiffer =>
        hdiffer.overlooks.not_member oneof honeof rule hget hrequired hnumber
    | _ => trivial
  | message constraint =>
    cases constraint with
    | combination source =>
      obtain ⟨-, hget⟩ := hattached
      intro expression hparse name hname
      unfold MessageSchema.isSet
      cases hfind : schema.field? name with
      | none => rfl
      | some field =>
        have hmem : field ∈ schema.fields := List.mem_of_find?_eq_some hfind
        have hfield : field.name = name := by simpa using List.find?_some hfind
        exact h.isSet_eq hschema hmem fun hdiffer =>
          hdiffer.overlooks.not_named field hmem rfl source expression hget hparse (hfield ▸ hname)
    | _ => trivial

end Message.SeenAlike

/-! ## Validators -/

/-- The checks of a pool are blind to what no rule looks at. -/
theorem Sources.blindTo_seenAlike (sources : Sources) (pool : Nat) :
    (sources.checksAt pool).BlindTo (Message.SeenAlike (sources.schemaAt pool)) :=
  blindTo (fun h => h.typeName_eq) fun h hschema => h.agree hschema

namespace Sample

/-- Entries have a note, an author and a reply that is an entry. -/
def entryType : MessageType where
  fullName := "Entry"
  fields := [⟨"note", "Entry.note", "note", 1, .scalar .string, .singular, none, []⟩,
    ⟨"author", "Entry.author", "author", 2, .scalar .string, .singular, none, []⟩,
    ⟨"reply", "Entry.reply", "reply", 3, .message "Entry", .singular, none, []⟩]
  oneofs := []
  extensions := []
  options := []

def entryCatalog : Catalog := .single ⟨[("Entry", entryType)]⟩

/-- An entry with a reply needs an author, and the reply has to be in order as well.  Nothing is
asked of notes. -/
def entryRules : ValidatorOption :=
  .rules (.ofList
    [⟨"Entry", .field "reply", .dependency ⟨"author", none⟩⟩,
      ⟨"Entry", .field "reply", .recurse true⟩])

/-- An entry with a note that replies to one by the given author, which lacks its own. -/
def entry (note author : String) : Message :=
  ⟨"Entry", [(1, .string note), (2, .string author),
    (3, .message "Entry" [(1, .string note), (3, .message "Entry" [])])]⟩

/-- Such an entry without any note, by another author. -/
def noteless (author : String) : Message :=
  ⟨"Entry", [(2, .string author), (3, .message "Entry" [(3, .message "Entry" [])])]⟩

/-- What entries resolve to. -/
def entrySchema : MessageSchema where
  type := entryType
  fields := [⟨entryType.fields[0], .empty⟩, ⟨entryType.fields[1], .empty⟩,
    ⟨entryType.fields[2], .ofList [.dependency ⟨"author", none⟩, .recurse true]⟩]
  oneofs := []
  constraints := .empty

theorem schemaAt_entry :
    (Validator.withOptions entryCatalog .written [entryRules]).sources.schemaAt 0 "Entry" =
      .ok entrySchema := rfl

/-- No rule looks at notes, and none but a dependency at authors. -/
theorem overlooks_entry {number : Nat} (hnumber : number ≠ 3) : entrySchema.Overlooks number where
  idle := by
    intro field hfield hfieldNumber kind constraint hget
    rcases hfield with _ | ⟨_, _ | ⟨_, _ | ⟨_, hnone⟩⟩⟩
    · cases hget
    · cases hget
    · exact absurd hfieldNumber.symm hnumber
    · cases hnone
  not_named := by
    intro field hfield hfieldNumber source expression hget
    cases hget
  not_member := by
    intro oneof honeof
    cases honeof

theorem not_isPartner_note : ¬ entrySchema.IsPartner 1 := by
  rintro ⟨field, hfield, hnumber, other, hother, rule, hget, hname⟩
  have hrule : rule.partner = "author" := by
    rcases hother with _ | ⟨_, _ | ⟨_, _ | ⟨_, hnone⟩⟩⟩
    · cases hget
    · cases hget
    · cases hget
      rfl
    · cases hnone
  rcases hfield with _ | ⟨_, _ | ⟨_, _ | ⟨_, hnone⟩⟩⟩
  · exact absurd (hrule.symm.trans hname) (by decide)
  · cases hnumber
  · cases hnumber
  · cases hnone

/-- Notes may come and go, and authors may change, as long as there is one. -/
theorem seenAlike_entry :
    Message.SeenAlike
      ((Validator.withOptions entryCatalog .written [entryRules]).sources.schemaAt 0) "Entry"
      (entry "to do" "ann") (noteless "eve") := by
  have hnote : ∀ message message' : Message, entrySchema.MayDiffer message message' 1 :=
    fun _ _ => .unseen (overlooks_entry (by decide)) not_isPartner_note
  have hauthor : entrySchema.MayDiffer (entry "to do" "ann") (noteless "eve") 2 := by
    refine .partner (overlooks_entry (by decide)) fun field hfield hnumber => ?_
    rcases hfield with _ | ⟨_, _ | ⟨_, _ | ⟨_, hnone⟩⟩⟩
    · cases hnumber
    · exact ⟨rfl, rfl⟩
    · cases hnumber
    · cases hnone
  refine .message schemaAt_entry (fun number hseen => ?_) fun field hfield hseen value value' hvalue
    hvalue' => ?_
  · rcases number with _ | _ | _ | _ | n
    · rfl
    · exact absurd (hnote _ _) hseen
    · rfl
    · rfl
    · rfl
  · rcases hfield with _ | ⟨_, _ | ⟨_, _ | ⟨_, hnone⟩⟩⟩
    · exact absurd (hnote _ _) hseen
    · exact absurd hauthor hseen
    · cases hvalue
      cases hvalue'
      -- The replies differ in their notes only.
      refine .message schemaAt_entry (fun number hseen => ?_) fun field hfield hseen value value'
        hvalue hvalue' => ?_
      · rcases number with _ | _ | _ | _ | n
        · rfl
        · exact absurd (hnote _ _) hseen
        · rfl
        · rfl
        · rfl
      · rcases hfield with _ | ⟨_, _ | ⟨_, _ | ⟨_, hnone⟩⟩⟩
        · cases hvalue'
        · cases hvalue
        · cases hvalue
          cases hvalue'
          exact .refl _ _ _
        · cases hnone
    · cases hnone

end Sample

namespace Validator

/-- **Fields that no rule looks at do not matter.**  A validator over one pool answers alike for two
messages of a type that differ only where no rule looks: in the values of fields that carry no
constraint which demands something, are not named in the combination, are no members of a oneof that
has to be chosen from, and are no partners of a dependency, or are partners and set in both
messages.  Nested messages may differ in the same way, by the schema of their own type.  Whatever
the options of the validator and of the call are, it comes to the same outcome and is left in the
same state. -/
theorem validate_eq_of_seenAlike {catalog : Catalog} {options : List ValidatorOption}
    {history : List Request} {validator : Validator}
    (harises : validator.Arises catalog options history) {message message' : Message}
    (h : Message.SeenAlike (validator.sources.schemaAt 0) message.typeName message message') :
    (∀ callOptions,
      validator.validate 0 message callOptions = validator.validate 0 message' callOptions) ∧
    validator.violations 0 message = validator.violations 0 message' := by
  have hvalidate : ∀ callOptions, validator.validate 0 message callOptions =
      validator.validate 0 message' callOptions := fun callOptions =>
    harises.settled.validate_eq_of_blindTo (validator.sources.blindTo_seenAlike 0) h
      callOptions
  refine ⟨hvalidate, ?_⟩
  simp only [violations, hvalidate]

/-- What is wrong with an entry is found in the same way without its notes and with another
author. -/
theorem validate_eq_of_seenAlike_entry :
    ((withOptions Sample.entryCatalog .written [Sample.entryRules]).violations 0
        (Sample.entry "to do" "ann")).2.toOption.map (fun vs => vs.map (·.path)) =
      some [[.field "reply"], [.field "reply", .field "reply"]] := by
  have harises : (withOptions Sample.entryCatalog .written [Sample.entryRules]).Arises
      Sample.entryCatalog [Sample.entryRules] [] := ⟨by simp, _, rfl⟩
  rw [(validate_eq_of_seenAlike harises Sample.seenAlike_entry).2]
  cbv

end Validator

end MessageConstraints
