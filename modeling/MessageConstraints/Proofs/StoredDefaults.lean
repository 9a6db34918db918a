import Mathlib.Data.List.Forall2
import MessageConstraints.Proofs.Likeness
import MessageConstraints.Proofs.Linked

/-!
# Stored defaults

Whether a field that has its default is stored or left out makes no difference, unless presence is
what the field is for: for a single message and for a member of a real oneof
(`MessageType.Omittable`).  Two values are equivalent if they differ in nothing else, at any depth
(`Value.Equivalent`).  A constraint never looks at what equivalent messages differ in: the rules on
values and on presence look at fields that are set by what they hold, and recursion and choice,
which look at what is stored, only at messages and at members of real oneofs
(`Message.Equivalent.agree`).  So equivalent messages get the same answers from every validator over
one pool (`Validator.validate_eq_of_equivalent`).
-/

namespace MessageConstraints

/-- Storing a value under a field number says no more than storing nothing: the value is the default
of the field with that number, which is neither a single message nor a member of a real oneof. -/
structure MessageType.Omittable (type : MessageType) (number : Nat) (value : Value) : Prop where
  eq_default : ∀ field ∈ type.fields, field.number = number → value = field.default
  not_message : ∀ field ∈ type.fields, field.number = number → field.shape = .singular →
    field.nested? = none
  not_member : ∀ oneof ∈ type.oneofs, oneof.isSynthetic = false → number ∉ oneof.members

/-- Two values of a field, or of its elements, differ at most in fields of messages, at any depth,
in which one has the default stored and the other nothing.  What is stored under numbers that the
type of a message does not declare is not compared. -/
inductive Value.Equivalent (declared : String → Option MessageType) :
    FieldType → Value → Value → Prop
  | refl (type : FieldType) (value : Value) : Equivalent declared type value value
  | list {type : FieldType} {items items' : List Value} :
      items.length = items'.length →
      (∀ item item', (item, item') ∈ items.zip items' → Equivalent declared type item item') →
      Equivalent declared type (.list items) (.list items')
  | map {type : FieldType} {entries entries' : List (MapKey × Value)} :
      entries.length = entries'.length →
      (∀ entry entry', (entry, entry') ∈ entries.zip entries' → entry.1 = entry'.1) →
      (∀ entry entry', (entry, entry') ∈ entries.zip entries' →
        Equivalent declared type entry.2 entry'.2) →
      Equivalent declared type (.map entries) (.map entries')
  | message {nested typeName : String} {type : MessageType}
      {fields fields' : List (Nat × Value)} :
      declared nested = some type →
      (∀ field ∈ type.fields, ∀ value value', fields.lookup field.number = some value →
        fields'.lookup field.number = some value' → Equivalent declared field.type value value') →
      (∀ number value, fields.lookup number = some value → fields'.lookup number = none →
        type.Omittable number value) →
      (∀ number value, fields.lookup number = none → fields'.lookup number = some value →
        type.Omittable number value) →
      Equivalent declared (.message nested) (.message typeName fields) (.message typeName fields')

/-- Two messages of a declared type differ at most in stored defaults. -/
def Message.Equivalent (declared : String → Option MessageType) (typeName : String)
    (message message' : Message) : Prop :=
  Value.Equivalent declared (.message typeName) message.toValue message'.toValue

variable {declared : String → Option MessageType}

/-! ## Values -/

namespace Value.Equivalent

variable {type : FieldType} {value value' : Value}

/-- Only messages have fields to differ in. -/
theorem eq (h : Equivalent declared type value value') (htype : ∀ name, type ≠ .message name) :
    value = value' := by
  induction h with
  | refl type value => rfl
  | list hlength _ ih =>
    have hitems := List.forall₂_iff_zip.mpr ⟨hlength, fun hmem => ih _ _ hmem htype⟩
    rw [List.forall₂_eq_eq_eq] at hitems
    rw [hitems]
  | map hlength hkeys _ ih =>
    have hentries := List.forall₂_iff_zip.mpr
      ⟨hlength, fun hmem => Prod.ext (hkeys _ _ hmem) (ih _ _ hmem htype)⟩
    rw [List.forall₂_eq_eq_eq] at hentries
    rw [hentries]
  | message => exact absurd rfl (htype _)

/-- Equivalent values are of the same shape, and so is what they hold. -/
theorem parallel (h : Equivalent declared type value value') :
    Parallel (Equivalent declared type) value value' := by
  cases h with
  | refl => exact .refl _
  | list hlength hitems => exact .list (List.forall₂_iff_zip.mpr ⟨hlength, @hitems⟩)
  | map hlength hkeys hvalues =>
    exact .map (List.forall₂_iff_zip.mpr ⟨hlength, fun hmem =>
      ⟨hkeys _ _ hmem, hvalues _ _ hmem⟩⟩) rfl
  | message => exact .message _ _ _

end Value.Equivalent

/-! ## Fields -/

namespace Message.Equivalent

variable {typeName : String} {type : MessageType} {message message' : Message} {field : Field}

theorem typeName_eq (h : Message.Equivalent declared typeName message message') :
    message.typeName = message'.typeName :=
  (Value.Equivalent.parallel h).typeName_eq

/-- What two messages store under a number: both nothing, or both something, or one of them what
can be left out. -/
inductive Stored (declared : String → Option MessageType) (type : MessageType) (number : Nat) :
    Option Value → Option Value → Prop
  | neither : Stored declared type number none none
  | both {value value' : Value} :
      (∀ field ∈ type.fields, field.number = number →
        Value.Equivalent declared field.type value value') →
      Stored declared type number (some value) (some value')
  | first {value : Value} : type.Omittable number value →
      Stored declared type number (some value) none
  | second {value : Value} : type.Omittable number value →
      Stored declared type number none (some value)

theorem stored (h : Message.Equivalent declared typeName message message')
    (htype : declared typeName = some type) (number : Nat) :
    Stored declared type number (message.stored? number) (message'.stored? number) := by
  obtain ⟨name, fields⟩ := message
  obtain ⟨name', fields'⟩ := message'
  cases h with
  | refl =>
    unfold Message.stored?
    cases fields.lookup number with
    | none => exact .neither
    | some value => exact .both fun field _ _ => .refl _ _
  | @message _ _ other _ _ hother hboth hfirst hsecond =>
    obtain rfl : other = type := Option.some.inj (hother.symm.trans htype)
    unfold Message.stored?
    cases hvalue : fields.lookup number with
    | none =>
      cases hvalue' : fields'.lookup number with
      | none => exact .neither
      | some value' => exact .second (hsecond number value' hvalue hvalue')
    | some value =>
      cases hvalue' : fields'.lookup number with
      | none => exact .first (hfirst number value hvalue hvalue')
      | some value' =>
        refine .both fun field hfield hnumber => ?_
        subst hnumber
        exact hboth field hfield value value' hvalue hvalue'

/-- What a field holds is equivalent, stored or not. -/
theorem get (h : Message.Equivalent declared typeName message message')
    (htype : declared typeName = some type) (hfield : field ∈ type.fields) :
    Value.Equivalent declared field.type (message.get field) (message'.get field) := by
  have hstored := h.stored htype field.number
  unfold Message.get
  generalize message.stored? field.number = value at hstored
  generalize message'.stored? field.number = value' at hstored
  cases hstored with
  | neither => exact .refl _ _
  | both hvalues => exact hvalues field hfield rfl
  | first homit =>
    rw [homit.eq_default field hfield rfl]
    exact .refl _ _
  | second homit =>
    rw [homit.eq_default field hfield rfl]
    exact .refl _ _

/-- Where presence matters, both messages store something or neither does. -/
theorem holds_eq (h : Message.Equivalent declared typeName message message')
    (htype : declared typeName = some type) {number : Nat}
    (hnever : ∀ value, ¬ type.Omittable number value) :
    message.holds number = message'.holds number := by
  have hstored := h.stored htype number
  unfold Message.holds
  generalize message.stored? number = value at hstored
  generalize message'.stored? number = value' at hstored
  cases hstored with
  | neither => rfl
  | both => rfl
  | first homit => exact absurd homit (hnever _)
  | second homit => exact absurd homit (hnever _)

/-- Nothing can be left out where a single message belongs. -/
theorem not_omittable_message (hfield : field ∈ type.fields) (hshape : field.shape = .singular)
    {nested : String} (hnested : field.nested? = some nested) (value : Value) :
    ¬ type.Omittable field.number value := by
  intro homit
  rw [homit.not_message field hfield rfl hshape] at hnested
  cases hnested

/-- A field is set in both messages or in neither. -/
theorem isSet_eq (h : Message.Equivalent declared typeName message message')
    (htype : declared typeName = some type) (hfield : field ∈ type.fields) :
    message.isSet field = message'.isSet field := by
  refine isSet_eq_of_parallel (fun nested hshape hmessage => ?_) (h.get htype hfield).parallel
  have hnested : field.nested? = some nested := by rw [Field.nested?, hmessage]
  exact h.holds_eq htype (not_omittable_message hfield hshape hnested)

/-- The nested messages in a field are equivalent one by one. -/
theorem nestedMessages (h : Message.Equivalent declared typeName message message')
    (htype : declared typeName = some type) (hfield : field ∈ type.fields) {nested : String}
    (hnested : field.type = .message nested) :
    List.Forall₂ (fun inner inner' => inner.1 = inner'.1 ∧
        Message.Equivalent declared nested inner.2 inner'.2)
      (Check.nestedMessages field message) (Check.nestedMessages field message') := by
  have hget := h.get htype hfield
  rw [hnested] at hget
  refine Check.forall₂_nestedMessages (.refl _) (fun _ _ hvalue => hvalue.parallel)
    (fun hshape => ?_) hget.parallel
  -- A single message counts only if it is stored, so the default is not what is looked at.
  have hsome : field.nested? = some nested := by rw [Field.nested?, hnested]
  have hnever := not_omittable_message hfield hshape hsome
  have hstored := h.stored htype field.number
  generalize message.stored? field.number = value at hstored
  generalize message'.stored? field.number = value' at hstored
  cases hstored with
  | neither => exact .none
  | first homit => exact absurd homit (hnever _)
  | second homit => exact absurd homit (hnever _)
  | both hvalues => exact .some (hnested ▸ hvalues field hfield rfl)

/-- **No constraint looks at what equivalent messages differ in.** -/
theorem agree {sources : Sources} {pool : Nat} {schema : MessageSchema}
    (hschema : sources.schemaAt pool typeName = .ok schema)
    (h : Message.Equivalent (fun name => sources.catalog.type? ⟨pool, name⟩) typeName message
      message') :
    ∀ site ∈ schema.sites, site.Agree
      (Message.Equivalent fun name => sources.catalog.type? ⟨pool, name⟩) schema message
        message' := by
  have htype := Sources.type_schemaAt hschema
  have hfields : ∀ field ∈ schema.fields, field.field ∈ schema.type.fields := fun field hfield => by
    rw [← Sources.fields_schemaAt hschema]
    exact List.mem_map_of_mem hfield
  have hset : ∀ field ∈ schema.fields, message.isSet field.field = message'.isSet field.field :=
    fun field hfield => h.isSet_eq htype (hfields field hfield)
  have hvalues : ∀ field ∈ schema.fields, field.messageType? = none →
      message.get field.field = message'.get field.field := by
    intro field hfield hnone
    refine (h.get htype (hfields field hfield)).eq fun name hname => ?_
    rw [FieldSchema.messageType?_eq_some_iff.mpr hname] at hnone
    cases hnone
  intro site hsite
  have hattached := MessageSchema.mem_sites.mp hsite
  cases site with
  | field field constraint =>
    have hfield : field ∈ schema.fields := hattached.2.1
    cases constraint with
    | required on => exact fun _ => hset field hfield
    | pattern rule => exact fun _ => hvalues field hfield
    | min rule => exact fun _ => hvalues field hfield
    | max rule => exact fun _ => hvalues field hfield
    | range source => exact fun _ => hvalues field hfield
    | distinct on => exact fun _ _ => hvalues field hfield
    | dependency rule =>
      exact ⟨hset field hfield, fun partner hpartner =>
        hset partner (List.mem_of_find?_eq_some hpartner)⟩
    | recurse on =>
      exact fun _ nested hnested => h.nestedMessages htype (hfields field hfield)
        (FieldSchema.messageType?_eq_some_iff.mp hnested)
    | choice rule => trivial
    | combination source => trivial
  | oneof oneof constraint =>
    cases constraint with
    | choice rule =>
      have honeof : oneof.oneof ∈ schema.type.oneofs.filter (!·.isSynthetic) := by
        rw [← Sources.oneofs_schemaAt hschema]
        exact List.mem_map_of_mem hattached.2.1
      obtain ⟨hmem, hreal⟩ := List.mem_filter.mp honeof
      intro _ number hnumber
      refine h.holds_eq htype fun value homit => ?_
      exact homit.not_member oneof.oneof hmem (by simpa using hreal) hnumber
    | _ => trivial
  | message constraint =>
    cases constraint with
    | combination source =>
      intro expression _ name _
      unfold MessageSchema.isSet
      cases hfind : schema.field? name with
      | none => rfl
      | some field => exact hset field (List.mem_of_find?_eq_some hfind)
    | _ => trivial

end Message.Equivalent

/-! ## Validators -/

/-- The checks of a pool are blind to stored defaults. -/
theorem Sources.blindTo_equivalent (sources : Sources) (pool : Nat) :
    (sources.checksAt pool).BlindTo
      (Message.Equivalent fun name => sources.catalog.type? ⟨pool, name⟩) :=
  blindTo (fun h => h.typeName_eq) fun h hschema => h.agree hschema

namespace Sample

/-- A node with an empty name, whose child has none. -/
def emptyName : Message := ⟨"Node", [(1, .string ""), (2, .message "Node" [])]⟩

/-- A node without a name, whose child has an empty one. -/
def emptyChildName : Message := ⟨"Node", [(2, .message "Node" [(1, .string "")])]⟩

theorem omittable_name : nodeType.Omittable 1 (.string "") where
  eq_default := by simp [nodeType, Field.default, FieldType.zero, ScalarType.zero]
  not_message := by simp [nodeType, Field.nested?]
  not_member := by simp [nodeType]

theorem equivalent_child : Value.Equivalent (fun name => catalog.type? ⟨0, name⟩)
    (.message "Node") (.message "Node" []) (.message "Node" [(1, .string "")]) := by
  refine @Value.Equivalent.message _ _ _ nodeType _ _ rfl ?_ ?_ ?_
  · simp
  · simp
  · intro number value _ hvalue
    rcases number with _ | _ | n
    · cases hvalue
    · cases hvalue
      exact omittable_name
    · cases hvalue

theorem equivalent_emptyName :
    Message.Equivalent (fun name => catalog.type? ⟨0, name⟩) "Node" emptyName emptyChildName := by
  refine @Value.Equivalent.message _ _ _ nodeType _ _ rfl ?_ ?_ ?_
  · intro field hfield value value' hvalue hvalue'
    rcases List.mem_pair.mp hfield with rfl | rfl
    · cases hvalue'
    · cases hvalue
      cases hvalue'
      exact equivalent_child
  · intro number value hvalue hnone
    rcases number with _ | _ | _ | n
    · cases hvalue
    · cases hvalue
      exact omittable_name
    · cases hnone
    · cases hvalue
  · intro number value hnone hvalue
    rcases number with _ | _ | _ | n
    · cases hvalue
    · cases hvalue
    · cases hnone
    · cases hvalue

end Sample

namespace Validator

/-- **Presence of defaults does not matter.**  A validator over one pool answers alike for messages
that differ only in that, at any depth, one stores the default of a field in which the other stores
nothing, apart from single messages and from members of real oneofs: whatever the options of the
validator and of the call are, it comes to the same outcome and is left in the same state. -/
theorem validate_eq_of_equivalent {catalog : Catalog} {options : List ValidatorOption}
    {history : List Request} {validator : Validator}
    (harises : validator.Arises catalog options history) {message message' : Message}
    (h : Message.Equivalent (fun name => catalog.type? ⟨0, name⟩) message.typeName message
      message') :
    (∀ callOptions,
      validator.validate 0 message callOptions = validator.validate 0 message' callOptions) ∧
    validator.violations 0 message = validator.violations 0 message' := by
  have hblind := validator.sources.blindTo_equivalent 0
  rw [harises.catalog_eq] at hblind
  have hvalidate : ∀ callOptions, validator.validate 0 message callOptions =
      validator.validate 0 message' callOptions :=
    fun callOptions => harises.settled.validate_eq_of_blindTo hblind h callOptions
  refine ⟨hvalidate, ?_⟩
  simp only [violations, hvalidate]

/-- Where the empty names of nodes are stored does not matter. -/
theorem validate_eq_of_equivalent_emptyName :
    (withOptions Sample.catalog .written [Sample.rules]).violations 0 Sample.emptyName =
      (withOptions Sample.catalog .written [Sample.rules]).violations 0 Sample.emptyChildName := by
  have harises : (withOptions Sample.catalog .written [Sample.rules]).Arises Sample.catalog
      [Sample.rules] [] := ⟨by simp, _, rfl⟩
  exact (validate_eq_of_equivalent harises Sample.equivalent_emptyName).2

end Validator

end MessageConstraints
