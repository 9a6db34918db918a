import Mathlib.Data.List.Forall2
import MessageConstraints.Proofs.Admissible
import MessageConstraints.Proofs.Visiting

/-!
# Messages that checks cannot tell apart

Relations between messages are given by relations between values, which go layer by layer
(`Value.Parallel`): what they say about presence, about the types of messages and about nested
messages is read off one layer.

Two messages come to the same under a check if they agree in what the check looks at
(`Check.Agree`, `Check.outcome_eq_of_agree`): whether fields are set, what they hold, which members
of a oneof are stored, and the nested messages, which have to be alike in their turn.  A relation
between messages to which the checks of all types are blind in this sense (`CheckTable.BlindTo`)
relates only messages that come to the same, at every depth and in both modes
(`CheckTable.evaluate_eq_of_blindTo`), and a validator that is settled in a pool answers alike for
them if the checks of the pool are blind to the relation
(`Validator.Settled.validate_eq_of_blindTo`).
-/

namespace MessageConstraints

variable {same : String → Message → Message → Prop} {message message' : Message}

/-- Outcomes that are equal one by one are equal when they are joined. -/
theorem Outcome.gather_eq_of_forall₂ {α β : Type} {R : α → β → Prop} {mode : Reporting}
    {check : α → Outcome} {check' : β → Outcome} {things : List α} {things' : List β}
    (hthings : List.Forall₂ R things things') (hcheck : ∀ a b, R a b → check a = check' b) :
    gather mode check things = gather mode check' things' := by
  induction hthings with
  | nil => rfl
  | cons hfirst hrest ih => rw [gather_cons, gather_cons, hcheck _ _ hfirst, ih]

theorem isEmpty_congr {α β : Type} {things : List α} {things' : List β}
    (h : things.length = things'.length) : things.isEmpty = things'.isEmpty := by
  rw [Bool.eq_iff_iff, List.isEmpty_iff_length_eq_zero, List.isEmpty_iff_length_eq_zero, h]

/-- Things that correspond one by one are at the same positions. -/
theorem forall₂_zipIdx {α β : Type} {R : α → β → Prop} {things : List α} {things' : List β}
    (h : List.Forall₂ R things things') (start : Nat) :
    List.Forall₂ (fun a b => R a.1 b.1 ∧ a.2 = b.2) (things.zipIdx start)
      (things'.zipIdx start) := by
  induction h generalizing start with
  | nil => exact .nil
  | cons hfirst hrest ih => exact .cons ⟨hfirst, rfl⟩ (ih (start + 1))

/-- Lists that correspond one by one, and in which corresponding things compare alike, are sorted
alike. -/
theorem forall₂_mergeSort {α β : Type} {R : α → β → Prop} {le : α → α → Bool} {le' : β → β → Bool}
    (hle : ∀ a a' b b', R a b → R a' b' → le a a' = le' b b') {things : List α}
    {things' : List β} (h : List.Forall₂ R things things') :
    List.Forall₂ R (things.mergeSort le) (things'.mergeSort le') := by
  obtain ⟨hlength, hzip⟩ := List.forall₂_iff_zip.mp h
  -- Both lists are sorted as the pairs of corresponding things are.
  have hfirst : ((things.zip things').mergeSort fun a b => le a.1 b.1).map Prod.fst =
      things.mergeSort le := by
    rw [@List.map_mergeSort _ _ _ le Prod.fst _ fun a _ b _ => rfl, List.map_fst_zip hlength.le]
  have hsecond : ((things.zip things').mergeSort fun a b => le a.1 b.1).map Prod.snd =
      things'.mergeSort le' := by
    rw [@List.map_mergeSort _ _ _ le' Prod.snd _ fun a ha b hb => hle _ _ _ _ (hzip ha) (hzip hb),
      List.map_snd_zip hlength.ge]
  rw [← hfirst, ← hsecond, List.forall₂_map_left_iff, List.forall₂_map_right_iff,
    List.forall₂_same]
  intro pair hpair
  exact hzip (List.mem_mergeSort.mp hpair)

/-- What may be there corresponds after it is changed, if what it is changed to corresponds. -/
theorem rel_map {α β γ δ : Type} {R : α → β → Prop} {S : γ → δ → Prop} {f : α → γ} {g : β → δ}
    {a : Option α} {b : Option β} (h : Option.Rel R a b) (hchange : ∀ a b, R a b → S (f a) (g b)) :
    Option.Rel S (a.map f) (b.map g) := by
  cases h with
  | some hab => exact .some (hchange _ _ hab)
  | none => exact .none

theorem rel_bind {α β γ δ : Type} {R : α → β → Prop} {S : γ → δ → Prop} {f : α → Option γ}
    {g : β → Option δ} {a : Option α} {b : Option β} (h : Option.Rel R a b)
    (hnext : ∀ a b, R a b → Option.Rel S (f a) (g b)) : Option.Rel S (a.bind f) (b.bind g) := by
  cases h with
  | some hab => exact hnext _ _ hab
  | none => exact .none

/-! ## Values of one shape -/

/-- Two values are of the same shape, and what they hold is related at the same places: the elements
of lists one by one, the values in maps in the order of the keys.  Messages are of the same type,
whatever is in their fields. -/
inductive Value.Parallel (inner : Value → Value → Prop) : Value → Value → Prop
  | refl (value : Value) : Parallel inner value value
  | list {items items' : List Value} :
      List.Forall₂ inner items items' → Parallel inner (.list items) (.list items')
  | map {entries middle entries' : List (MapKey × Value)} :
      List.Forall₂ (fun entry entry' => entry.1 = entry'.1 ∧ inner entry.2 entry'.2) entries
        middle →
      (middle.mergeSort fun a b => a.1.le b.1) = (entries'.mergeSort fun a b => a.1.le b.1) →
      Parallel inner (.map entries) (.map entries')
  | message (typeName : String) (fields fields' : List (Nat × Value)) :
      Parallel inner (.message typeName fields) (.message typeName fields')

namespace Value.Parallel

variable {inner R : Value → Value → Prop} {value value' : Value}

theorem isSet_eq (h : Parallel inner value value') : value.isSet = value'.isSet := by
  cases h with
  | refl => rfl
  | list hitems => exact congrArg not (isEmpty_congr hitems.length_eq)
  | map hentries hsorted =>
    have hlength := congrArg List.length hsorted
    rw [List.length_mergeSort, List.length_mergeSort] at hlength
    exact congrArg not (isEmpty_congr (hentries.length_eq.trans hlength))
  | message => rfl

theorem typeName_eq (h : Parallel inner message.toValue message'.toValue) :
    message.typeName = message'.typeName := by
  obtain ⟨typeName, fields⟩ := message
  obtain ⟨typeName', fields'⟩ := message'
  cases h <;> rfl

/-- Both values are messages or neither is. -/
theorem asMessage? (h : Parallel inner value value') (hrelated : R value value') :
    Option.Rel (fun message message' => R message.toValue message'.toValue) value.asMessage?
      value'.asMessage? := by
  cases h with
  | refl =>
    cases value with
    | message typeName fields => exact .some hrelated
    | _ => exact .none
  | list => exact .none
  | map => exact .none
  | message typeName fields fields' => exact .some hrelated

end Value.Parallel

/-! ## What messages store -/

namespace Message

variable {R inner : Value → Value → Prop} {field : Field} {number : Nat}

theorem holds_eq_of_stored (h : Option.Rel R (message.stored? number) (message'.stored? number)) :
    message.holds number = message'.holds number := by
  unfold holds
  generalize message.stored? number = value at h
  generalize message'.stored? number = value' at h
  cases h <;> rfl

/-- What a field holds is related if what is stored in it is, as defaults are related to
themselves. -/
theorem get_of_stored (hrefl : ∀ value, R value value)
    (h : Option.Rel R (message.stored? field.number) (message'.stored? field.number)) :
    R (message.get field) (message'.get field) := by
  unfold get
  generalize message.stored? field.number = value at h
  generalize message'.stored? field.number = value' at h
  cases h with
  | none => exact hrefl _
  | some hvalue => exact hvalue

/-- A field for a single message is set by what is stored, any other by the shape of what it
holds. -/
theorem isSet_eq_of_parallel
    (hsingle : ∀ nested, field.shape = .singular → field.type = .message nested →
      message.holds field.number = message'.holds field.number)
    (hget : Value.Parallel inner (message.get field) (message'.get field)) :
    message.isSet field = message'.isSet field := by
  unfold isSet
  split
  case h_1 nested hshape htype => exact hsingle nested hshape htype
  case h_2 => exact hget.isSet_eq

end Message

/-! ## Nested messages -/

/-- A single message in a field is the only nested one. -/
theorem Check.nestedMessages_singular {field : Field} (h : field.shape = .singular)
    (message : Message) :
    nestedMessages field message =
      (((message.stored? field.number).bind Value.asMessage?).map fun nested =>
        ([], nested)).toList := by
  unfold nestedMessages
  rw [h]
  cases message.stored? field.number with
  | none => rfl
  | some value => cases value <;> rfl

/-- The nested messages in a field are related one by one, at the same places. -/
theorem Check.forall₂_nestedMessages {R : Value → Value → Prop} {field : Field}
    (hrefl : ∀ value, R value value)
    (hparallel : ∀ value value', R value value' → Value.Parallel R value value')
    (hsingle : field.shape = .singular →
      Option.Rel R (message.stored? field.number) (message'.stored? field.number))
    (hget : Value.Parallel R (message.get field) (message'.get field)) :
    List.Forall₂ (fun inner inner' => inner.1 = inner'.1 ∧ R inner.2.toValue inner'.2.toValue)
      (nestedMessages field message) (nestedMessages field message') := by
  have hmessage : ∀ value value', R value value' → Option.Rel
      (fun message message' => R (Message.toValue message) (Message.toValue message'))
      value.asMessage? value'.asMessage? :=
    fun value value' hvalue => (hparallel value value' hvalue).asMessage? hvalue
  cases hshape : field.shape with
  | singular =>
    rw [nestedMessages_singular hshape, nestedMessages_singular hshape]
    have hinner := rel_bind (hsingle hshape) hmessage
    generalize (message.stored? field.number).bind Value.asMessage? = inner at hinner
    generalize (message'.stored? field.number).bind Value.asMessage? = inner' at hinner
    cases hinner with
    | none => exact .nil
    | some hinner => exact .cons ⟨rfl, hinner⟩ .nil
  | list =>
    simp only [nestedMessages, hshape]
    generalize message.get field = value at hget
    generalize message'.get field = value' at hget
    cases hget with
    | refl => exact List.forall₂_same.mpr fun inner _ => ⟨rfl, hrefl _⟩
    | map | message => exact .nil
    | list hitems =>
      refine List.rel_filterMap ?_ (forall₂_zipIdx hitems 0)
      rintro ⟨item, index⟩ ⟨item', index'⟩ ⟨hitem, rfl⟩
      exact rel_map (hmessage item item' hitem) fun _ _ hinner => ⟨rfl, hinner⟩
  | map key =>
    simp only [nestedMessages, hshape]
    generalize message.get field = value at hget
    generalize message'.get field = value' at hget
    cases hget with
    | refl => exact List.forall₂_same.mpr fun inner _ => ⟨rfl, hrefl _⟩
    | list | message => exact .nil
    | map hentries hsorted =>
      simp only [← hsorted]
      refine List.rel_filterMap ?_ (@forall₂_mergeSort _ _ _ (fun a b => a.1.le b.1)
        (fun a b => a.1.le b.1) (fun a a' b b' hab hab' => by rw [hab.1, hab'.1]) _ _ hentries)
      rintro ⟨key, value⟩ ⟨key', value'⟩ ⟨hkey, hvalue⟩
      obtain rfl : key = key' := hkey
      exact rel_map (hmessage value value' hvalue) fun _ _ hinner => ⟨rfl, hinner⟩

namespace Combination

variable {isSet isSet' : String → Bool}

mutual

/-- Whether a combination holds depends only on the fields that it names. -/
theorem holds_congr (expression : Combination)
    (h : ∀ name ∈ expression.names, isSet name = isSet' name) :
    expression.holds isSet = expression.holds isSet' := by
  cases expression with
  | field name => exact h name (List.mem_singleton_self name)
  | all operands => exact (holdsOf_congr operands h).1
  | any operands => exact (holdsOf_congr operands h).2

theorem holdsOf_congr (operands : List Combination)
    (h : ∀ name ∈ namesOf operands, isSet name = isSet' name) :
    holdsAll isSet operands = holdsAll isSet' operands ∧
      holdsAny isSet operands = holdsAny isSet' operands := by
  cases operands with
  | nil => exact ⟨rfl, rfl⟩
  | cons operand rest =>
    have hfirst := holds_congr operand fun name hname => h name (List.mem_append_left _ hname)
    obtain ⟨hall, hany⟩ :=
      holdsOf_congr rest fun name hname => h name (List.mem_append_right _ hname)
    simp only [holdsAll, holdsAny, hfirst, hall, hany, and_self]

end

end Combination

/-! ## Single checks -/

namespace Check

/-- Two messages agree in what a check looks at.  Nested messages may differ in what the given
relation, for the type whose checks they are put to, does not see. -/
def Agree (same : String → Message → Message → Prop) (message message' : Message) : Check → Prop
  | required field => message.isSet field = message'.isSet field
  | pattern field _ _ => message.get field = message'.get field
  | number field _ => message.get field = message'.get field
  | distinct field => message.get field = message'.get field
  | recurse field nested =>
    List.Forall₂ (fun inner inner' => inner.1 = inner'.1 ∧ same nested inner.2 inner'.2)
      (nestedMessages field message) (nestedMessages field message')
  | dependency field partner _ =>
    message.isSet field = message'.isSet field ∧ message.isSet partner = message'.isSet partner
  | choice oneof _ => ∀ number ∈ oneof.members, message.holds number = message'.holds number
  | combination _ expression fields => ∀ name ∈ expression.names,
    (fields.find? (·.name = name)).any message.isSet =
      (fields.find? (·.name = name)).any message'.isSet

/-- Messages that agree in what a check looks at come to the same under it. -/
theorem outcome_eq_of_agree {reporting : Reporting} {visit : String → Message → Outcome}
    (hvisit : ∀ nested inner inner', same nested inner inner' →
      visit nested inner = visit nested inner')
    {check : Check} (h : check.Agree same message message') :
    check.outcome reporting visit message = check.outcome reporting visit message' := by
  cases check with
  | required field =>
    have hset : message.isSet field = message'.isSet field := h
    simp only [outcome, hset]
  | pattern field regex text =>
    have hget : message.get field = message'.get field := h
    simp only [outcome, hget]
  | number field rule =>
    have hget : message.get field = message'.get field := h
    simp only [outcome, hget]
  | distinct field =>
    have hget : message.get field = message'.get field := h
    simp only [outcome, hget]
  | recurse field nested =>
    refine Outcome.gather_eq_of_forall₂ h ?_
    rintro ⟨steps, inner⟩ ⟨steps', inner'⟩ ⟨rfl, hinner⟩
    show compose field.name steps (visit nested inner) =
      compose field.name steps (visit nested inner')
    rw [hvisit nested inner inner' hinner]
  | dependency field partner text =>
    obtain ⟨hfield, hpartner⟩ := h
    simp only [outcome, hfield, hpartner]
  | choice oneof text =>
    have hany : oneof.members.any message.holds = oneof.members.any message'.holds := by
      rw [Bool.eq_iff_iff, List.any_eq_true, List.any_eq_true]
      exact exists_congr fun number => and_congr_right fun hmem => by rw [h number hmem]
    simp only [outcome, hany]
  | combination source expression fields =>
    have hholds := Combination.holds_congr expression h
    simp only [outcome, hholds]

end Check

/-! ## Constraints -/

namespace FieldSchema

variable {schema : FieldSchema} {owner : MessageSchema} {constraint : Constraint}

/-- Two messages agree in what a constraint on a field looks at, as far as it can be compiled: rules
on values look at fields that hold neither maps nor messages. -/
def Agree (same : String → Message → Message → Prop) (owner : MessageSchema)
    (message message' : Message) (schema : FieldSchema) : Constraint → Prop
  | .required on => on = true → message.isSet schema.field = message'.isSet schema.field
  | .pattern _ | .min _ | .max _ | .range _ =>
    schema.field.IsPlain → schema.messageType? = none →
      message.get schema.field = message'.get schema.field
  | .distinct on => on = true → schema.field.IsPlain → schema.messageType? = none →
    message.get schema.field = message'.get schema.field
  | .recurse on => on = true → ∀ nested, schema.messageType? = some nested →
    (Check.recurse schema.field nested).Agree same message message'
  | .dependency rule => message.isSet schema.field = message'.isSet schema.field ∧
    ∀ partner, owner.field? rule.partner = some partner →
      message.isSet partner.field = message'.isSet partner.field
  | .choice _ | .combination _ => True

theorem messageType?_of_scalar {type : ScalarType} (h : schema.field.type = .scalar type) :
    schema.messageType? = none := by
  simp [messageType?, Field.nested?, h]

/-- The check of a pattern is one of a field that holds texts. -/
theorem holdsTexts_of_compilePattern {rule : PatternRule} {check : Check}
    (h : schema.compilePattern rule = .ok check) : schema.field.HoldsTexts := by
  by_contra hnot
  rw [compilePattern_of_not_holdsTexts hnot] at h
  cases h

/-- The check of a number rule is one of a field that holds numbers. -/
theorem exists_number_of_compileNumber {kind : ConstraintKind}
    {read : {α : Type} → [Measure α] → Except CompileError (NumberRule α)} {check : Check}
    (h : schema.compileNumber kind read = .ok check) :
    ∃ rule family, check = .number schema.field rule ∧ schema.field.HoldsNumbers family := by
  unfold compileNumber at h
  split at h
  case h_5 => cases h
  all_goals
    obtain ⟨rule, -, rfl⟩ := map_eq_ok_iff.mp h
    exact ⟨_, _, rfl, numberFamily?_eq_some_iff.mp ‹_›⟩

theorem agree_compileNumber {kind : ConstraintKind}
    {read : {α : Type} → [Measure α] → Except CompileError (NumberRule α)} {check : Check}
    (h : (schema.compileNumber kind read).map some = .ok (some check))
    (hagree : schema.field.IsPlain → schema.messageType? = none →
      message.get schema.field = message'.get schema.field) :
    check.Agree same message message' := by
  obtain ⟨compiled, hcompiled, heq⟩ := map_eq_ok_iff.mp h
  obtain rfl := Option.some.inj heq
  obtain ⟨rule, family, rfl, hplain, type, htype, -⟩ := exists_number_of_compileNumber hcompiled
  exact hagree hplain (messageType?_of_scalar htype)

/-- What the check of a constraint on a field looks at is what the constraint looks at. -/
theorem agree_compile (hagree : schema.Agree same owner message message' constraint)
    {check : Check} (h : schema.compile owner constraint = .ok (some check)) :
    check.Agree same message message' := by
  cases constraint with
  | required on =>
    cases on with
    | false => cases h
    | true =>
      cases h
      exact hagree rfl
  | pattern rule =>
    obtain ⟨compiled, hcompiled, heq⟩ := map_eq_ok_iff.mp h
    obtain rfl := Option.some.inj heq
    obtain ⟨hplain, htype⟩ := holdsTexts_of_compilePattern hcompiled
    obtain ⟨regex, rfl⟩ := exists_pattern_of_compilePattern hcompiled
    exact hagree hplain (messageType?_of_scalar htype)
  | min rule => exact agree_compileNumber h hagree
  | max rule => exact agree_compileNumber h hagree
  | range source => exact agree_compileNumber h hagree
  | distinct on =>
    cases on with
    | false => cases h
    | true =>
      obtain ⟨hlist, htype⟩ := (decides_distinct schema owner).ok_iff.mp ⟨_, h⟩ rfl
      simp only [compile] at h
      split at h
      · cases h
      · cases h
        have hnone : schema.messageType? = none :=
          Option.eq_none_iff_forall_ne_some.mpr fun name hname =>
            htype name (messageType?_eq_some_iff.mp hname)
        exact hagree rfl (Or.inr hlist) hnone
  | dependency rule =>
    simp only [compile] at h
    split at h
    case h_1 partner hpartner =>
      cases h
      exact ⟨hagree.1, hagree.2 partner hpartner⟩
    case h_2 => cases h
  | recurse on =>
    cases on with
    | false => cases h
    | true =>
      simp only [compile] at h
      split at h
      case h_1 nested hnested =>
        cases h
        exact hagree rfl nested hnested
      case h_2 => cases h
  | choice rule => cases h
  | combination source => cases h

end FieldSchema

/-- Two messages agree in what a constraint looks at where it is attached. -/
def Site.Agree (same : String → Message → Message → Prop) (owner : MessageSchema)
    (message message' : Message) : Site → Prop
  | field schema constraint => schema.Agree same owner message message' constraint
  | oneof schema (.choice rule) => rule.required = true →
    ∀ number ∈ schema.oneof.members, message.holds number = message'.holds number
  | .message (.combination source) => ∀ expression, Combination.parse? source = some expression →
    ∀ name ∈ expression.names, owner.isSet message name = owner.isSet message' name
  | _ => True

/-- **The check of a constraint looks at what the constraint looks at.** -/
theorem Site.agree_compile {owner : MessageSchema} {site : Site}
    (hagree : site.Agree same owner message message') {check : Check}
    (h : site.compile owner = .ok (some check)) : check.Agree same message message' := by
  cases site with
  | field schema constraint => exact FieldSchema.agree_compile hagree h
  | oneof schema constraint =>
    cases constraint with
    | choice rule =>
      simp only [compile, OneofSchema.compile, Except.ok.injEq,
        Option.ite_none_right_eq_some, Option.some.injEq] at h
      obtain ⟨hrequired, rfl⟩ := h
      exact hagree hrequired
    | _ => cases h
  | message constraint =>
    cases constraint with
    | combination source =>
      simp only [compile, MessageSchema.compile, MessageSchema.compileCombination] at h
      split at h
      · cases h
      case h_2 expression hparse =>
        split at h
        · cases h
        · cases h
          intro name hname
          rw [MessageSchema.any_find?_fields, MessageSchema.any_find?_fields]
          exact hagree expression hparse name hname
    | _ => cases h

/-! ## Whole messages -/

namespace CheckTable

variable {table : CheckTable}

/-- **From single checks to whole messages.**  Messages in a relation are of the same type, and come
to the same under each check as soon as the nested messages in the relation do.  Then they come to
the same, however deep they are nested. -/
theorem evaluate_eq_of_outcome_eq (same : String → Message → Message → Prop)
    {reporting : Reporting}
    (htype : ∀ {typeName message message'}, same typeName message message' →
      message.typeName = message'.typeName)
    (houtcome : ∀ {visit : String → Message → Outcome},
      (∀ nested inner inner', same nested inner inner' →
        visit nested inner = visit nested inner') →
      ∀ {typeName message message' checks check}, same typeName message message' →
        table typeName = .ok checks → check ∈ checks →
        check.outcome reporting visit message = check.outcome reporting visit message')
    (limit levels : Nat) {typeName : String} (h : same typeName message message') :
    table.evaluate reporting limit levels typeName message =
      table.evaluate reporting limit levels typeName message' := by
  have hjudge : ∀ visit : String → Message → Outcome,
      (∀ nested inner inner', same nested inner inner' →
        visit nested inner = visit nested inner') →
      ∀ {typeName message message'}, same typeName message message' →
        table.judge reporting visit typeName message =
          table.judge reporting visit typeName message' := by
    intro visit hvisit typeName message message' h
    unfold judge
    cases hchecks : table typeName with
    | error cause => rfl
    | ok checks =>
      have hgather : Outcome.gather reporting
          (fun check => check.outcome reporting visit message) checks =
            Outcome.gather reporting (fun check => check.outcome reporting visit message') checks :=
        Outcome.gather_congr fun check hmem => houtcome hvisit h hchecks hmem
      simp only [hgather, htype h]
  induction levels generalizing typeName message message' with
  | zero =>
    -- At the last level a nested message only tells its type.
    refine hjudge _ (fun nested inner inner' hinner => ?_) h
    rw [htype hinner]
  | succ below ih =>
    refine hjudge _ (fun nested inner inner' hinner => ?_) h
    exact ih hinner

/-- The checks of all types are blind to a relation between messages: related messages are of the
same type, and agree in all that the checks look at. -/
structure BlindTo (table : CheckTable) (same : String → Message → Message → Prop) : Prop where
  typeName_eq : ∀ {typeName message message'}, same typeName message message' →
    message.typeName = message'.typeName
  agree : ∀ {typeName message message' checks check}, same typeName message message' →
    table typeName = .ok checks → check ∈ checks → check.Agree same message message'

/-- **Checks do not tell apart what they are blind to**, however deep the messages are nested. -/
theorem evaluate_eq_of_blindTo (hblind : table.BlindTo same) (reporting : Reporting)
    (limit levels : Nat) {typeName : String} (h : same typeName message message') :
    table.evaluate reporting limit levels typeName message =
      table.evaluate reporting limit levels typeName message' :=
  evaluate_eq_of_outcome_eq same hblind.typeName_eq
    (fun hvisit _ _ _ _ _ h hchecks hmem =>
      Check.outcome_eq_of_agree hvisit (hblind.agree h hchecks hmem)) limit levels h

end CheckTable

/-- The checks of a pool are blind to what none of the constraints of its types looks at. -/
theorem Sources.blindTo {sources : Sources} {pool : Nat}
    (htype : ∀ {typeName message message'}, same typeName message message' →
      message.typeName = message'.typeName)
    (hagree : ∀ {typeName message message' schema}, same typeName message message' →
      sources.schemaAt pool typeName = .ok schema →
      ∀ site ∈ schema.sites, site.Agree same schema message message') :
    (sources.checksAt pool).BlindTo same where
  typeName_eq := htype
  agree := by
    intro typeName message message' checks check hsame hchecks hmem
    obtain ⟨schema, hschema, -, rfl⟩ := exists_schemaAt hchecks
    obtain ⟨site, hsite, hcompile⟩ := Compiled.exists_site_of_mem_checks hmem
    exact Site.agree_compile (hagree hsame hschema site hsite) hcompile

/-! ## Validators -/

/-- A store that holds what the types of a pool compile to is blind where the pool is. -/
theorem Store.Faithful.blindTo {sources : Sources} {pool : Nat} {store : Store}
    (h : store.Faithful sources pool) (hblind : (sources.checksAt pool).BlindTo same) :
    CheckTable.BlindTo store.checks same where
  typeName_eq := hblind.typeName_eq
  agree := by
    intro typeName message message' checks check hsame hchecks hmem
    unfold Store.checks at hchecks
    cases hfind : store.compiled.find? typeName with
    | none =>
      rw [hfind] at hchecks
      cases hchecks
    | some compiled =>
      have hcompiled : compiled = sources.compiledAt pool typeName := (h.compiled_eq hfind).2
      rw [hfind, hcompiled] at hchecks
      exact hblind.agree hsame hchecks hmem

namespace Validator

variable {pool : Nat} {validator : Validator}

/-- A validator goes through the same steps for messages of one type, and comes to the same outcome
if they come to the same under the checks that it then has. -/
theorem validate_congr {options : List CallOption} (hname : message.typeName = message'.typeName)
    (hevaluate : ∀ reporting limit,
      (validator.validate pool message options).1.store.evaluate reporting limit message.typeName
          message =
        (validator.validate pool message options).1.store.evaluate reporting limit
          message.typeName message') :
    validator.validate pool message options = validator.validate pool message' options := by
  have hstate : (validator.validate pool message options).1 =
      (validator.validate pool message' options).1 := by
    simp only [validate, hname]
  refine Prod.ext hstate ?_
  show (validator.validate pool message options).1.store.evaluate _ _ message.typeName message =
    (validator.validate pool message' options).1.store.evaluate _ _ message'.typeName message'
  rw [← hstate, ← hname]
  exact hevaluate _ _

/-- A settled validator comes to the same outcome for messages that the checks of its pool do not
tell apart. -/
theorem Settled.validate_eq_of_blindTo (hsettled : validator.Settled pool)
    (hblind : (validator.sources.checksAt pool).BlindTo same)
    (h : same message.typeName message message') (options : List CallOption) :
    validator.validate pool message options = validator.validate pool message' options := by
  have hkeeps := keeps_validate hsettled message options
  have hloaded : CheckTable.BlindTo (validator.validate pool message options).1.store.checks same :=
    hkeeps.settled.1.blindTo (by rw [hkeeps.sources_eq]; exact hblind)
  exact validate_congr (hblind.typeName_eq h) fun reporting limit =>
    CheckTable.evaluate_eq_of_blindTo hloaded reporting limit limit h

end Validator

end MessageConstraints
