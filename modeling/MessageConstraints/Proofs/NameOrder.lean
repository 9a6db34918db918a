import MessageConstraints.Proofs.Eager
import MessageConstraints.Proofs.Errors
import MessageConstraints.Proofs.Resolution

/-!
# The order of names in rules

A validator keeps its rules with the names in an order of its own.  What the rules say is the same
in every order (`RuleSet.rule?_arranged`), and so is whether a schema resolves, and to what
(`Sources.schema?_arranged`).  Only if rules name several fields that a message does not have, or
several oneofs, does the order tell which of them an error is about: then each of them is told in
some order (`Sources.tellsOne_iff`).

So validators whose names come in different orders differ at most in these errors
(`Validator.upTo_ofSettings`).  This is as much as can be said of two validators that are made
separately: where one of them has been asked something before
(`Validator.answer_upTo_first_answer`), and where their options are mixed in another way
(`Validator.rules_merge_and_options_mix`).
-/

namespace MessageConstraints

/-! ## Rules in another order -/

/-- The order that puts one name before all others. -/
def NameOrder.leading (first : String) : NameOrder where
  arrange _ _ names := if first ∈ names then first :: names.erase first else names
  perm _ _ names := by
    split
    case isTrue hmem => exact (List.perm_cons_erase hmem).symm
    case isFalse => exact .refl names

variable {order order' : NameOrder}

namespace MessageRules

variable {rules : MessageRules} {message : String}

/-- Of no names there is one order only. -/
theorem arranged_empty : empty.arranged order message = empty := by
  have hnil : ∀ target, order.arrange message target [] = [] :=
    fun target => List.perm_nil.mp (order.perm message target [])
  show (⟨empty.message, NameMap.empty.inOrder (order.arrange message .field []),
    NameMap.empty.inOrder (order.arrange message .oneof [])⟩ : MessageRules) = empty
  rw [hnil, hnil]
  rfl

theorem at?_arranged (element : RuleTarget) :
    (rules.arranged order message).at? element = rules.at? element := by
  cases element with
  | message => rfl
  | field name => exact NameMap.find?_inOrder (order.perm message .field _) name
  | oneof name => exact NameMap.find?_inOrder (order.perm message .oneof _) name

end MessageRules

namespace RuleSet

variable {rules : RuleSet} {message : String}

theorem forMessage?_arranged :
    (rules.arranged order).forMessage? message =
      (rules.forMessage? message).map (·.arranged order message) := by
  obtain ⟨⟨entries⟩⟩ := rules
  show NameMap.find? ⟨entries.map _⟩ message = (NameMap.find? ⟨entries⟩ message).map _
  induction entries with
  | nil => rfl
  | cons entry rest ih =>
    obtain ⟨name, entry⟩ := entry
    rw [List.map_cons, NameMap.find?_cons, NameMap.find?_cons, ih]
    split
    case isTrue heq => rw [← heq, Option.map_some]
    case isFalse => rfl

/-- **What rules say is the same in every order of names.** -/
theorem rule?_arranged (element : RuleTarget) (kind : ConstraintKind) :
    (rules.arranged order).rule? message element kind = rules.rule? message element kind := by
  rw [rule?, rule?, at?, at?, forMessage?_arranged]
  cases rules.forMessage? message with
  | none => rfl
  | some entry => simp only [Option.map_some, Option.bind_some, MessageRules.at?_arranged]

end RuleSet

/-! ## Wrong names -/

namespace MessageRules

variable {rules : MessageRules} {type : MessageType} {message name : String} {cause : CompileError}

/-- Rules name an element that a message type does not have. -/
def Misnames (rules : MessageRules) (type : MessageType) (element : RuleTarget) : Prop :=
  (rules.at? element).isSome = true ∧ ¬ ∃ owner options, type.Has element owner options

/-- The errors that rules may be refused for because of their names: any of the fields that the type
does not have, and if there are none, any of the oneofs that it does not have. -/
inductive Tells (rules : MessageRules) (type : MessageType) : CompileError → Prop
  | field {name : String} : rules.Misnames type (.field name) →
      Tells rules type (.unknownField name type.fullName)
  | oneof {name : String} : rules.Misnames type (.oneof name) →
      (∀ field, ¬ rules.Misnames type (.field field)) →
      Tells rules type (.unknownOneof name type.fullName)

theorem misnames_field_iff :
    rules.Misnames type (.field name) ↔
      name ∈ rules.fields.names ∧ (type.field? name).isNone = true := by
  rw [Misnames, at?, NameMap.isSome_find?_iff, ← MessageType.isSome_field?_iff]
  simp

theorem misnames_oneof_iff :
    rules.Misnames type (.oneof name) ↔
      name ∈ rules.oneofs.names ∧ (!type.hasOneof name) = true := by
  rw [Misnames, at?, NameMap.isSome_find?_iff, ← MessageType.hasOneof_iff]
  simp

/-- The order of the names does not matter for which of them are wrong. -/
theorem misnames_arranged {element : RuleTarget} :
    (rules.arranged order message).Misnames type element ↔ rules.Misnames type element := by
  rw [Misnames, Misnames, at?_arranged]

theorem Tells.congr {rules' : MessageRules}
    (hmisnames : ∀ element, rules.Misnames type element ↔ rules'.Misnames type element)
    (h : rules.Tells type cause) : rules'.Tells type cause := by
  cases h with
  | field hname => exact .field ((hmisnames _).mp hname)
  | oneof hname hfields =>
    exact .oneof ((hmisnames _).mp hname) fun field hfield =>
      hfields field ((hmisnames _).mpr hfield)

theorem tells_arranged :
    (rules.arranged order message).Tells type cause ↔ rules.Tells type cause :=
  ⟨.congr fun _ => misnames_arranged, .congr fun _ => misnames_arranged.symm⟩

/-- A name that is put first is the first one, of fields as well as of oneofs. -/
theorem names_arranged_leading :
    (name ∈ rules.fields.names → (rules.arranged (.leading name) message).fields.names =
      name :: rules.fields.names.erase name) ∧
    (name ∈ rules.oneofs.names → (rules.arranged (.leading name) message).oneofs.names =
      name :: rules.oneofs.names.erase name) := by
  have hnames : ∀ table : NameMap ConstraintSet, name ∈ table.names →
      (table.inOrder (name :: table.names.erase name)).names = name :: table.names.erase name :=
    fun table hmem => NameMap.names_inOrder fun _ hother =>
      (List.perm_cons_erase hmem).mem_iff.mpr hother
  constructor <;> intro hmem <;> simp only [arranged, NameOrder.leading, if_pos hmem]
  · exact hnames rules.fields hmem
  · exact hnames rules.oneofs hmem

end MessageRules

namespace MessageSchema

variable {rules : MessageRules} {type : MessageType} {message : String} {cause : CompileError}

/-- The names in rules are refused for a wrong one. -/
theorem tells_of_checkNames (h : checkNames type rules = .error cause) :
    rules.Tells type cause := by
  unfold checkNames at h
  split at h
  case h_1 name hfind =>
    obtain rfl := Except.error.inj h
    have hwrong := List.find?_some hfind
    exact .field
      (MessageRules.misnames_field_iff.mpr ⟨List.mem_of_find?_eq_some hfind, hwrong⟩)
  case h_2 hnone =>
    split at h
    case h_1 name hfind =>
      obtain rfl := Except.error.inj h
      have hwrong := List.find?_some hfind
      refine .oneof (MessageRules.misnames_oneof_iff.mpr
        ⟨List.mem_of_find?_eq_some hfind, hwrong⟩) fun field hfield => ?_
      obtain ⟨hmem, hnot⟩ := MessageRules.misnames_field_iff.mp hfield
      exact List.find?_eq_none.mp hnone field hmem hnot
    case h_2 => cases h

/-- The names in rules are not accepted if there is a wrong one. -/
theorem checkNames_ne_ok (h : rules.Tells type cause) : checkNames type rules ≠ .ok () := by
  intro hok
  have hnames := checkNames_eq_ok_iff.mp hok
  cases h with
  | field hname | oneof hname => exact hname.2 (hnames _ hname.1)

/-- Names are wrong in every order or in none. -/
theorem checkNames_arranged {R : CompileError → CompileError → Prop}
    (htells : ∀ cause cause', rules.Tells type cause → rules.Tells type cause' → R cause cause') :
    AgreeUpTo R (checkNames type (rules.arranged order message))
      (checkNames type (rules.arranged order' message)) := by
  have htold : ∀ {order cause}, checkNames type (rules.arranged order message) = .error cause →
      rules.Tells type cause :=
    fun h => MessageRules.tells_arranged.mp (tells_of_checkNames h)
  have hrefused : ∀ {order cause}, rules.Tells type cause →
      checkNames type (rules.arranged order message) ≠ .ok () :=
    fun h => checkNames_ne_ok (MessageRules.tells_arranged.mpr h)
  cases hfirst : checkNames type (rules.arranged order message) with
  | ok =>
    cases hsecond : checkNames type (rules.arranged order' message) with
    | ok => exact .ok ()
    | error cause' => exact absurd hfirst (hrefused (htold hsecond))
  | error cause =>
    cases hsecond : checkNames type (rules.arranged order' message) with
    | ok => exact absurd hsecond (hrefused (htold hfirst))
    | error cause' => exact .error (htells cause cause' (htold hfirst) (htold hsecond))

/-- **Each of several wrong names is told in some order.** -/
theorem exists_checkNames_eq_error (h : rules.Tells type cause) (message : String) :
    ∃ order, checkNames type (rules.arranged order message) = .error cause := by
  cases h with
  | @field name hname =>
    obtain ⟨hmem, hwrong⟩ := MessageRules.misnames_field_iff.mp hname
    refine ⟨.leading name, ?_⟩
    simp only [checkNames, MessageRules.names_arranged_leading.1 hmem, List.find?_cons, hwrong]
  | @oneof name hname hfields =>
    obtain ⟨hmem, hwrong⟩ := MessageRules.misnames_oneof_iff.mp hname
    refine ⟨.leading name, ?_⟩
    have hnone : (rules.arranged (.leading name) message).fields.names.find?
        (fun field => (type.field? field).isNone) = none := by
      refine List.find?_eq_none.mpr fun field hfield hnot => hfields field ?_
      exact MessageRules.misnames_arranged.mp (MessageRules.misnames_field_iff.mpr ⟨hfield, hnot⟩)
    simp only [checkNames, hnone, MessageRules.names_arranged_leading.2 hmem, List.find?_cons,
      hwrong]

end MessageSchema

/-! ## Schemas -/

namespace MessageSchema

variable {rules : RuleSet} {entry : MessageRules} {type : MessageType}

/-- A schema in some order of names: only the names are checked in this order. -/
theorem resolve_arranged (registry : Registry) (pool : Pool)
    (hentry : entry = (rules.forMessage? type.fullName).getD .empty) :
    ∃ rest : ConstraintSet → Except CompileError MessageSchema, ∀ order,
      resolve registry (rules.arranged order) pool type = (do
        let own ← resolveElement registry pool .message type.fullName type.options
          (some entry.message)
        checkNames type (entry.arranged order type.fullName)
        rest own) := by
  refine ⟨fun own => do
    let fields ← type.fields.mapM (resolveField registry pool entry)
    let oneofs ← (type.oneofs.filter (!·.isSynthetic)).mapM (resolveOneof registry pool entry)
    pure ⟨type, fields, oneofs, own⟩, fun order => ?_⟩
  have harranged : ((rules.arranged order).forMessage? type.fullName).getD .empty =
      entry.arranged order type.fullName := by
    rw [RuleSet.forMessage?_arranged, hentry]
    cases rules.forMessage? type.fullName with
    | none => exact MessageRules.arranged_empty.symm
    | some entry => rfl
  have hfields : ∀ field, resolveField registry pool
      (entry.arranged order type.fullName) field = resolveField registry pool entry field := by
    intro field
    have hfind := @MessageRules.at?_arranged order entry type.fullName (.field field.name)
    simp only [MessageRules.at?] at hfind
    rw [resolveField, resolveField, hfind]
  have honeofs : ∀ oneof, resolveOneof registry pool
      (entry.arranged order type.fullName) oneof = resolveOneof registry pool entry oneof := by
    intro oneof
    have hfind := @MessageRules.at?_arranged order entry type.fullName (.oneof oneof.name)
    simp only [MessageRules.at?] at hfind
    rw [resolveOneof, resolveOneof, hfind]
  unfold resolve
  simp only [harranged, funext hfields, funext honeofs]
  rfl

end MessageSchema

namespace Sources

variable {sources : Sources} {ref : TypeRef} {cause cause' : CompileError} {pool : Nat}
  {name : String}

/-- The same sources, with the names in the rules in some order. -/
def arranged (order : NameOrder) (sources : Sources) : Sources :=
  { sources with rules := sources.rules.arranged order }

/-- The errors about names that the schema of a type may end in: its own options and rules go
together, so that the names in the rules for it are looked at, and some of these are wrong. -/
inductive MayTell (sources : Sources) (ref : TypeRef) (cause : CompileError) : Prop
  | intro {type : MessageType} {entry : MessageRules} {own : ConstraintSet}
      (htype : sources.catalog.type? ref = some type)
      (hentry : entry = (sources.rules.forMessage? type.fullName).getD .empty)
      (hown : MessageSchema.resolveElement sources.registry (sources.catalog.pool ref.pool)
        .message type.fullName type.options (some entry.message) = .ok own)
      (htells : entry.Tells type cause)

/-- There are no two errors about names that the schema of a type may end in. -/
def TellsOne (sources : Sources) (ref : TypeRef) : Prop :=
  ∀ cause cause', sources.MayTell ref cause → sources.MayTell ref cause' → cause = cause'

/-- An error may stand for another one if they are the same, or if the schema of the same type may
end in either because of the names in the rules. -/
inductive Interchangeable (sources : Sources) : CompileError → CompileError → Prop
  | refl (cause : CompileError) : Interchangeable sources cause cause
  | told {ref : TypeRef} {cause cause' : CompileError} : sources.MayTell ref cause →
      sources.MayTell ref cause' → Interchangeable sources cause cause'

theorem Interchangeable.eq (h : sources.Interchangeable cause cause')
    (hone : ∀ ref, sources.TellsOne ref) : cause = cause' := by
  cases h with
  | refl => rfl
  | told htold htold' => exact hone _ _ _ htold htold'

/-- A schema resolves in every order of names to the same, or it does not, and then of several
wrong names each may be the one that the error tells. -/
theorem schema?_arranged {R : CompileError → CompileError → Prop} (hrefl : ∀ cause, R cause cause)
    (htold : ∀ cause cause', sources.MayTell ref cause → sources.MayTell ref cause' →
      R cause cause') :
    Option.Rel (AgreeUpTo R) ((sources.arranged order).schema? ref)
      ((sources.arranged order').schema? ref) := by
  unfold schema? arranged
  cases htype : sources.catalog.type? ref with
  | none => exact .none
  | some type =>
    obtain ⟨entry, hentry⟩ : ∃ entry,
        entry = (sources.rules.forMessage? type.fullName).getD .empty := ⟨_, rfl⟩
    obtain ⟨rest, hresolve⟩ :=
      MessageSchema.resolve_arranged sources.registry (sources.catalog.pool ref.pool) hentry
    refine .some ?_
    simp only [hresolve]
    cases hown : MessageSchema.resolveElement sources.registry (sources.catalog.pool ref.pool)
        .message type.fullName type.options (some entry.message) with
    | error cause => exact .error (hrefl cause)
    | ok own =>
      refine (AgreeUpTo.ok own).bind fun _ => AgreeUpTo.bind
        (MessageSchema.checkNames_arranged fun cause cause' htells htells' => ?_)
        fun _ => AgreeUpTo.refl hrefl _
      exact htold cause cause' (.intro htype hentry hown htells) (.intro htype hentry hown htells')

/-- Each error about names that a schema may end in is one that it ends in in some order. -/
theorem exists_schemaAt_eq_error (h : sources.MayTell ⟨pool, name⟩ cause) :
    ∃ order, (sources.arranged order).schemaAt pool name = .error cause := by
  obtain @⟨type, entry, own, htype, hentry, hown, htells⟩ := h
  obtain ⟨rest, hresolve⟩ :=
    MessageSchema.resolve_arranged sources.registry (sources.catalog.pool pool) hentry
  obtain ⟨order, hnames⟩ := MessageSchema.exists_checkNames_eq_error htells type.fullName
  refine ⟨order, ?_⟩
  unfold schemaAt schema? arranged
  rw [htype]
  simp only [Option.map_some, Option.getD_some, hresolve, hown, hnames]
  rfl

/-- **A type has the same schema in every order of names** exactly if there are no two errors about
names that its schema may end in. -/
theorem tellsOne_iff :
    sources.TellsOne ⟨pool, name⟩ ↔
      ∀ order order', (sources.arranged order).schemaAt pool name =
        (sources.arranged order').schemaAt pool name := by
  constructor
  · intro hone order order'
    have hschema : (sources.arranged order).schema? ⟨pool, name⟩ =
        (sources.arranged order').schema? ⟨pool, name⟩ :=
      AgreeUpTo.eq_of_rel (schema?_arranged (fun _ => rfl) hone)
    rw [schemaAt, schemaAt, hschema]
  · intro hsame cause cause' htold htold'
    obtain ⟨order, hfirst⟩ := exists_schemaAt_eq_error htold
    obtain ⟨order', hsecond⟩ := exists_schemaAt_eq_error htold'
    have heq := hsame order order'
    rw [hfirst, hsecond] at heq
    exact Except.error.inj heq

end Sources

/-- What the settings of a validator say about types, with the names in the rules in the order in
which they are written. -/
def Settings.sources (settings : Settings) (catalog : Catalog) : Sources :=
  ⟨catalog, settings.registry, settings.rules⟩

/-! ## Nodes with wrong names -/

namespace Sample

/-- Rules for nodes, in which the names of both fields are misspelt. -/
def misspelt : ValidatorOption :=
  .rules (.ofList
    [⟨"Node", .field "nmae", .required true⟩, ⟨"Node", .field "chidl", .recurse true⟩])

/-- The names in the reverse of the order in which they were written. -/
def reversed : NameOrder :=
  ⟨fun _ _ names => names.reverse, fun _ _ names => names.reverse_perm⟩

/-- The rules for nodes name nothing that nodes do not have. -/
theorem tellsOne_rules (ref : TypeRef) :
    ((Settings.ofOptions [rules]).sources catalog).TellsOne ref := by
  have htype : ∀ {ref type}, catalog.type? ref = some type → type = nodeType := by
    rintro ⟨pool, name⟩ type h
    cases pool with
    | zero => exact type?_catalog h
    | succ pool => cases h
  intro cause cause' htold
  obtain @⟨type, entry, own, hdeclared, rfl, -, htells⟩ := htold
  obtain rfl := htype hdeclared
  cases htells with
  | field hname =>
    obtain ⟨hmem, hwrong⟩ := MessageRules.misnames_field_iff.mp hname
    replace hmem : _ ∈ ["name", "child"] := hmem
    simp only [List.mem_cons, List.not_mem_nil, or_false] at hmem
    rcases hmem with rfl | rfl <;> cases hwrong
  | oneof hname =>
    obtain ⟨hmem, -⟩ := MessageRules.misnames_oneof_iff.mp hname
    replace hmem : _ ∈ [] := hmem
    cases hmem

end Sample

/-! ## Validators -/

namespace Validator

variable {catalog : Catalog} {settings : Settings}

/-- Validators with the same settings differ at most in which wrong names they tell. -/
theorem upTo_fresh :
    (fresh catalog order settings).UpTo (settings.sources catalog).Interchangeable
      (fresh catalog order' settings) where
  sources :=
    { catalog_eq := rfl
      schema? := fun _ =>
        @Sources.schema?_arranged order order' (settings.sources catalog) _ _ .refl
          fun _ _ => .told }
  isLazy_eq := rfl
  manner_eq := rfl
  store := ⟨rfl, .nil⟩

theorem upTo_ofSettings :
    (ofSettings catalog order settings).1.UpTo (settings.sources catalog).Interchangeable
        (ofSettings catalog order' settings).1 ∧
      Option.Rel (settings.sources catalog).Interchangeable (ofSettings catalog order settings).2
        (ofSettings catalog order' settings).2 :=
  upTo_fresh.preloadAll .refl _

/-- Validators with the same settings are both refused, for errors that may stand for each other, or
both made. -/
theorem upTo_tryWithOptions (options : List ValidatorOption) :
    (∃ made made', tryWithOptions catalog order options = .ok made ∧
      tryWithOptions catalog order' options = .ok made') ∨
    ∃ cause cause', tryWithOptions catalog order options = .error cause ∧
      tryWithOptions catalog order' options = .error cause' ∧
      ((Settings.ofOptions options).sources catalog).Interchangeable cause cause' := by
  obtain ⟨-, herror⟩ := @upTo_ofSettings order order' catalog (.ofOptions options)
  unfold tryWithOptions
  generalize ofSettings catalog order (.ofOptions options) = result at herror
  generalize ofSettings catalog order' (.ofOptions options) = result' at herror
  obtain ⟨made, error⟩ := result
  obtain ⟨made', error'⟩ := result'
  cases herror with
  | none => exact .inl ⟨made, made', rfl, rfl⟩
  | some hcause => exact .inr ⟨_, _, rfl, rfl, hcause⟩

/-- The schema that a new validator gives for a type of its pool. -/
theorem schema_withOptions (order : NameOrder) (options : List ValidatorOption) (name : String) :
    ((withOptions catalog order options).schema ⟨0, name⟩).2 =
      (((Settings.ofOptions options).sources catalog).arranged order).schemaAt 0 name := by
  have hmade := withOptions_keeps catalog order options
  rw [hmade.settled.schema_eq, hmade.sources_eq]
  rfl

/-- **Answers do not depend on history**, up to the names that errors tell.  Take a validator that
compiles on demand, has been made with some options and has been asked anything about the types of
its pool.  It answers the next call as a validator does that is made with the same options but for
the types to compile beforehand, and that is asked this first thing.

The two validators have the names in their rules in orders of their own.  If the rules give a type
several fields that it does not have, or several oneofs, then each of the two may tell another of
them in its error.  If the orders are the same, then so are the answers; and the answers are the
same in all orders exactly if there is no type about whose names different errors may be told. -/
theorem answer_upTo_first_answer {options : List ValidatorOption}
    (hlazy : ValidatorOption.disableLazy ∉ options) :
    let sources := (Settings.ofOptions options).sources catalog
    let used := fun order history request =>
      (((withOptions catalog order options).answerAll history).1.answer request).2
    let first := fun order request =>
      ((withOptions catalog order (options.filter (!·.isPreload))).answer request).2
    (∀ order order' history request, (∀ earlier ∈ history, earlier.pool = 0) →
      request.pool = 0 →
        (used order history request).UpTo sources.Interchangeable (first order' request) ∧
        used order history request = first order request) ∧
    ((∀ order order' history request, (∀ earlier ∈ history, earlier.pool = 0) →
        request.pool = 0 → used order history request = first order' request) ↔
      ∀ name, sources.TellsOne ⟨0, name⟩) := by
  intro sources used first
  have hused : ∀ order history request, (∀ earlier ∈ history, earlier.pool = 0) →
      request.pool = 0 → used order history request =
        request.expected (sources.arranged order) (Settings.ofOptions options).manner :=
    fun order history request hhistory hrequest =>
      answer_answerAll_withOptions hlazy hhistory hrequest
  have hfirst : ∀ order request, request.pool = 0 → first order request =
      request.expected (sources.arranged order) (Settings.ofOptions options).manner :=
    fun order request hrequest => answer_withOptions_filter hlazy hrequest
  have hsame : ∀ order history request, (∀ earlier ∈ history, earlier.pool = 0) →
      request.pool = 0 → used order history request = first order request := by
    intro order history request hhistory hrequest
    rw [hused order history request hhistory hrequest, hfirst order request hrequest]
  refine ⟨fun order order' history request hhistory hrequest =>
    ⟨?_, hsame order history request hhistory hrequest⟩, fun hall name => ?_, ?_⟩
  · have hsources :
        (Settings.ofOptions (options.filter (!·.isPreload))).sources catalog = sources := by
      rw [Settings.ofOptions_filter]
      rfl
    rw [hsame order history request hhistory hrequest, ← hsources]
    exact (upTo_ofSettings.1.answer .refl request).2
  · refine Sources.tellsOne_iff.mpr fun order order' => ?_
    have hschema := hall order order' [] (.schema ⟨0, name⟩) nofun rfl
    rw [hused order [] _ nofun rfl, hfirst order' _ rfl] at hschema
    exact Answer.schema.inj hschema
  · intro hone order order' history request hhistory hrequest
    rw [hused order history request hhistory hrequest, hfirst order' request hrequest]
    refine Request.expected_congr ?_ _
    rw [hrequest]
    exact funext fun name => Sources.tellsOne_iff.mp (hone name) order order'

/-- Asked for their schema, a used validator and a new one each tell a name that nodes do not have;
and with rules that do not misspell, the order of the names makes no difference. -/
theorem answer_upTo_first_answer_nodes :
    (((withOptions Sample.catalog .written [Sample.misspelt, .preload ["Node"]]).answerAll
        [.violations 0 Sample.nameless]).1.answer (.schema ⟨0, "Node"⟩)).2.UpTo
      ((Settings.ofOptions [Sample.misspelt, .preload ["Node"]]).sources
        Sample.catalog).Interchangeable
      ((withOptions Sample.catalog Sample.reversed [Sample.misspelt]).answer
        (.schema ⟨0, "Node"⟩)).2 ∧
    (((withOptions Sample.catalog .written [Sample.rules]).answerAll
        [.validate 0 Sample.nameless [.failFast], .schema ⟨0, "Node"⟩]).1.answer
          (.violations 0 Sample.nameless)).2 =
      ((withOptions Sample.catalog Sample.reversed [Sample.rules]).answer
        (.violations 0 Sample.nameless)).2 := by
  constructor
  · exact ((answer_upTo_first_answer (by simp [Sample.misspelt])).1 .written Sample.reversed _ _
      (by simp [Request.pool]) rfl).1
  · exact (answer_upTo_first_answer (by simp [Sample.rules])).2.mpr
      (fun _ => Sample.tellsOne_rules _) .written Sample.reversed _ _ (by simp [Request.pool]) rfl

/-- The answers are not always the same: a used validator may tell the one wrong name, and a new one
the other. -/
theorem answer_ne_first_answer_misspelt :
    let used := ((withOptions Sample.catalog .written [Sample.misspelt]).answerAll
      [.schema ⟨0, "Node"⟩]).1
    let first := withOptions Sample.catalog Sample.reversed [Sample.misspelt]
    (used.answer (.schema ⟨0, "Node"⟩)).2 = .schema (.error (.unknownField "nmae" "Node")) ∧
      (first.answer (.schema ⟨0, "Node"⟩)).2 = .schema (.error (.unknownField "chidl" "Node")) ∧
      (used.answer (.schema ⟨0, "Node"⟩)).2 ≠ (first.answer (.schema ⟨0, "Node"⟩)).2 := by
  intro used first
  have hused : (used.answer (.schema ⟨0, "Node"⟩)).2 =
      .schema (.error (.unknownField "nmae" "Node")) := rfl
  have hfirst : (first.answer (.schema ⟨0, "Node"⟩)).2 =
      .schema (.error (.unknownField "chidl" "Node")) := rfl
  refine ⟨hused, hfirst, ?_⟩
  rw [hused, hfirst]
  simp

end Validator

end MessageConstraints
