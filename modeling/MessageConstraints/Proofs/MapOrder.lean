import MessageConstraints.Proofs.Elements
import MessageConstraints.Proofs.Likeness

/-!
# The order in which maps are stored

A map has no order, but a message stores its entries in some order.  Sorting by key undoes this,
because the order of keys is a strict one on the keys of a type
(`MapKey.le_antisymm`, `SameEntries.mergeSort_eq`), and nothing but the nested messages in a map is
looked at entry by entry.  So two messages that differ only in the order of entries, at any depth
(`Message.Reordered`), come to the same under every check (`Check.outcome_eq_of_reordered`),
whatever types the checks were compiled for, and get the same answers from every validator
(`Validator.validate_eq_of_reordered`).
-/

namespace MessageConstraints

/-! ## Entries -/

/-- Of two keys of one type, each is at most the other only if they are the same. -/
theorem MapKey.le_antisymm {a b : MapKey} {type : ScalarType} (ha : a.IsOf type) (hb : b.IsOf type)
    (hab : a.le b = true) (hba : b.le a = true) : a = b := by
  rw [le_iff] at hab hba
  have hnumber : a.number = b.number := by omega
  cases alike_of_isOf ha hb with
  | bool a b => cases a <;> cases b <;> simp_all [number]
  | int32 a b => rw [Int32.toInt_inj.mp hnumber]
  | int64 a b => rw [Int64.toInt_inj.mp hnumber]
  | uint32 a b => rw [UInt32.toNat_inj.mp (Int.ofNat.inj hnumber)]
  | uint64 a b => rw [UInt64.toNat_inj.mp (Int.ofNat.inj hnumber)]
  | string a b =>
    have hle : a ≤ b := by simpa [kind, number, word] using hab
    have hge : b ≤ a := by simpa [kind, number, word] using hba
    rw [String.le_antisymm hle hge]

/-- Two lists have the same entries of a map.  They may have them in different orders if the keys
are of one type and no key comes twice. -/
inductive SameEntries : List (MapKey × Value) → List (MapKey × Value) → Prop
  | refl (entries : List (MapKey × Value)) : SameEntries entries entries
  | reorder {type : ScalarType} {entries entries' : List (MapKey × Value)} :
      entries.Perm entries' → (entries.map (·.1)).Nodup → (∀ entry ∈ entries, entry.1.IsOf type) →
      SameEntries entries entries'

namespace SameEntries

variable {entries entries' : List (MapKey × Value)}

theorem length_eq (h : SameEntries entries entries') : entries.length = entries'.length := by
  cases h with
  | refl => rfl
  | reorder hperm _ _ => exact hperm.length_eq

/-- Sorting by key leads to one and the same order. -/
theorem mergeSort_eq (h : SameEntries entries entries') :
    entries.mergeSort (fun a b => a.1.le b.1) = entries'.mergeSort (fun a b => a.1.le b.1) := by
  cases h with
  | refl => rfl
  | @reorder type _ _ hperm hnodup htype =>
    have hsorted : ∀ stored : List (MapKey × Value),
        (stored.mergeSort fun a b => a.1.le b.1).Pairwise fun a b => a.1.le b.1 = true :=
      fun stored =>
        @List.pairwise_mergeSort _ (fun a b => a.1.le b.1) (fun _ _ _ => MapKey.le_trans)
          (fun _ _ => MapKey.le_total) stored
    have hperm' : (entries.mergeSort fun a b => a.1.le b.1).Perm
        (entries'.mergeSort fun a b => a.1.le b.1) :=
      (List.mergeSort_perm _ _).trans (hperm.trans (List.mergeSort_perm _ _).symm)
    refine hperm'.eq_of_pairwise (fun a b ha hb hab hba => ?_) (hsorted _) (hsorted _)
    have hmem : a ∈ entries := List.mem_mergeSort.mp ha
    have hmem' : b ∈ entries := hperm.mem_iff.mpr (List.mem_mergeSort.mp hb)
    -- The keys are the same, and a key comes only once.
    have hkey : a.1 = b.1 := MapKey.le_antisymm (htype a hmem) (htype b hmem') hab hba
    exact List.inj_on_of_nodup_map hnodup hmem hmem' hkey

end SameEntries

/-! ## Values -/

/-- Two values differ at most in the order in which the entries of maps are stored, at any depth. -/
inductive Value.Reordered : Value → Value → Prop
  | refl (value : Value) : Reordered value value
  | list {items items' : List Value} :
      items.length = items'.length →
      (∀ item item', (item, item') ∈ items.zip items' → Reordered item item') →
      Reordered (.list items) (.list items')
  | map {entries middle entries' : List (MapKey × Value)} :
      entries.length = middle.length →
      (∀ entry entry', (entry, entry') ∈ entries.zip middle → entry.1 = entry'.1) →
      (∀ entry entry', (entry, entry') ∈ entries.zip middle → Reordered entry.2 entry'.2) →
      SameEntries middle entries' →
      Reordered (.map entries) (.map entries')
  | message {typeName : String} {fields fields' : List (Nat × Value)} :
      (∀ number, (fields.lookup number).isSome = (fields'.lookup number).isSome) →
      (∀ number value value', fields.lookup number = some value →
        fields'.lookup number = some value' → Reordered value value') →
      Reordered (.message typeName fields) (.message typeName fields')

/-- Two messages differ at most in the order in which the entries of maps are stored. -/
def Message.Reordered (message message' : Message) : Prop :=
  Value.Reordered message.toValue message'.toValue

namespace Value.Reordered

variable {value value' : Value}

/-- A map is reordered when its entries are, and nothing inside them. -/
theorem of_sameEntries {entries entries' : List (MapKey × Value)}
    (h : SameEntries entries entries') : Reordered (.map entries) (.map entries') := by
  have hzip : ∀ {entry entry'}, (entry, entry') ∈ entries.zip entries → entry = entry' :=
    (List.forall₂_iff_zip.mp (List.forall₂_refl entries)).2
  refine .map rfl (fun entry entry' hmem => ?_) (fun entry entry' hmem => ?_) h
  · rw [hzip hmem]
  · rw [hzip hmem]
    exact .refl _

/-- Reordered values are of the same shape, because sorting undoes the order of entries. -/
theorem parallel (h : Reordered value value') : Parallel Reordered value value' := by
  cases h with
  | refl => exact .refl _
  | list hlength hitems => exact .list (List.forall₂_iff_zip.mpr ⟨hlength, @hitems⟩)
  | map hlength hkeys hvalues hsame =>
    exact .map (List.forall₂_iff_zip.mpr ⟨hlength, fun hmem =>
      ⟨hkeys _ _ hmem, hvalues _ _ hmem⟩⟩) hsame.mergeSort_eq
  | message => exact .message _ _ _

/-- Reordered values are equal, or none of them is a scalar. -/
theorem eq_or_composite (h : Reordered value value') :
    value = value' ∨ (value.identity? = none ∧ value'.identity? = none) := by
  cases h with
  | refl => exact .inl rfl
  | list => exact .inr ⟨rfl, rfl⟩
  | map => exact .inr ⟨rfl, rfl⟩
  | message => exact .inr ⟨rfl, rfl⟩

/-- Pattern rules pass whatever is no text. -/
theorem patternOutcome_eq (h : Reordered value value') (field : String) (regex : Pattern)
    (text : Option String) :
    Check.patternOutcome field regex text value = Check.patternOutcome field regex text value' := by
  cases h <;> rfl

/-- Number rules pass whatever is no number. -/
theorem check_eq (h : Reordered value value') (field : String) (rule : NumberCheck) :
    rule.check field value = rule.check field value' := by
  cases h with
  | refl => rfl
  | list => cases rule <;> rfl
  | map => cases rule <;> rfl
  | message => cases rule <;> rfl

/-- A rule on single values that does not see the order of entries does not see it in lists. -/
theorem eachOutcome_eq {rule : Value → Outcome}
    (hrule : ∀ value value', Reordered value value' → rule value = rule value')
    (h : Reordered value value') (reporting : Reporting) :
    Check.eachOutcome reporting rule value = Check.eachOutcome reporting rule value' := by
  cases h with
  | refl => rfl
  | list hlength hitems =>
    refine Outcome.gather_eq_of_forall₂
      (forall₂_zipIdx (List.forall₂_iff_zip.mpr ⟨hlength, @hitems⟩) 0) ?_
    rintro ⟨item, index⟩ ⟨item', index'⟩ ⟨hitem, rfl⟩
    show (rule item).map _ = (rule item').map _
    rw [hrule item item' hitem]
  | map hlength hkeys hvalues hsame => exact hrule _ _ (.map hlength hkeys hvalues hsame)
  | message hstored hvalues => exact hrule _ _ (.message hstored hvalues)

/-- Maps and what holds them are never found to come again. -/
theorem findRepeats_eq {items items' : List Value} (h : List.Forall₂ Reordered items items')
    (reporting : Reporting) (seen : List (Value.Identity × Nat)) (index : Nat) :
    Check.findRepeats reporting seen index items =
      Check.findRepeats reporting seen index items' := by
  induction h generalizing seen index with
  | nil => rfl
  | cons hitem _ ih =>
    simp only [Check.findRepeats]
    obtain rfl | ⟨hnone, hnone'⟩ := hitem.eq_or_composite
    · simp only [ih]
    · simp only [hnone, hnone', ih]

theorem distinctOutcome_eq (h : Reordered value value') (reporting : Reporting) (field : String) :
    Check.distinctOutcome reporting field value = Check.distinctOutcome reporting field value' := by
  cases h with
  | refl => rfl
  | list hlength hitems =>
    simp only [Check.distinctOutcome,
      findRepeats_eq (List.forall₂_iff_zip.mpr ⟨hlength, @hitems⟩)]
  | map => rfl
  | message => rfl

end Value.Reordered

/-! ## Messages -/

namespace Message.Reordered

variable {message message' : Message}

theorem typeName_eq (h : message.Reordered message') : message.typeName = message'.typeName :=
  (Value.Reordered.parallel h).typeName_eq

/-- What is stored under a number is reordered. -/
theorem stored (h : message.Reordered message') (number : Nat) :
    Option.Rel Value.Reordered (message.stored? number) (message'.stored? number) := by
  obtain ⟨name, fields⟩ := message
  obtain ⟨name', fields'⟩ := message'
  unfold Message.stored?
  cases h with
  | refl =>
    cases fields.lookup number with
    | none => exact .none
    | some value => exact .some (.refl value)
  | message hstored hvalues =>
    have hboth := hstored number
    have hvalue := hvalues number
    generalize fields.lookup number = stored at hboth hvalue
    generalize fields'.lookup number = stored' at hboth hvalue
    cases stored <;> cases stored' <;> cases hboth
    · exact .none
    · exact .some (hvalue _ _ rfl rfl)

theorem holds_eq (h : message.Reordered message') (number : Nat) :
    message.holds number = message'.holds number :=
  holds_eq_of_stored (h.stored number)

theorem get (h : message.Reordered message') (field : Field) :
    Value.Reordered (message.get field) (message'.get field) :=
  get_of_stored .refl (h.stored field.number)

theorem isSet_eq (h : message.Reordered message') (field : Field) :
    message.isSet field = message'.isSet field :=
  isSet_eq_of_parallel (fun _ _ _ => h.holds_eq field.number) (h.get field).parallel

/-- Sorting makes the nested messages in a field correspond, one by one and at the same places. -/
theorem nestedMessages (h : message.Reordered message') (field : Field) :
    List.Forall₂ (fun inner inner' => inner.1 = inner'.1 ∧ Message.Reordered inner.2 inner'.2)
      (Check.nestedMessages field message) (Check.nestedMessages field message') :=
  Check.forall₂_nestedMessages .refl (fun _ _ hvalue => hvalue.parallel)
    (fun _ => h.stored field.number) (h.get field).parallel

end Message.Reordered

/-- **No check sees the order in which maps are stored**, given that it is not seen in the nested
messages. -/
theorem Check.outcome_eq_of_reordered {reporting : Reporting} {visit : String → Message → Outcome}
    (hvisit : ∀ nested inner inner', Message.Reordered inner inner' →
      visit nested inner = visit nested inner')
    {message message' : Message} (h : message.Reordered message') (check : Check) :
    check.outcome reporting visit message = check.outcome reporting visit message' := by
  have hagree : ∀ {check : Check}, check.Agree (fun _ => Message.Reordered) message message' →
      check.outcome reporting visit message = check.outcome reporting visit message' :=
    outcome_eq_of_agree hvisit
  cases check with
  | required field => exact hagree (h.isSet_eq field)
  | pattern field regex text =>
    have heach := (h.get field).eachOutcome_eq
      (fun _ _ hvalue => hvalue.patternOutcome_eq field.name regex text) reporting
    simp only [outcome, heach]
  | number field rule =>
    have heach := (h.get field).eachOutcome_eq
      (fun _ _ hvalue => hvalue.check_eq field.name rule) reporting
    simp only [outcome, heach]
  | distinct field =>
    simp only [outcome, (h.get field).distinctOutcome_eq reporting field.name]
  | recurse field nested => exact hagree (h.nestedMessages field)
  | dependency field partner text => exact hagree ⟨h.isSet_eq field, h.isSet_eq partner⟩
  | choice oneof text => exact hagree fun number _ => h.holds_eq number
  | combination source expression fields =>
    have hset : message.isSet = message'.isSet := funext h.isSet_eq
    exact hagree fun name _ => by rw [hset]

/-- Messages that differ only in the order of entries come to the same under every table of
checks. -/
theorem CheckTable.evaluate_eq_of_reordered (table : CheckTable) (reporting : Reporting)
    (limit levels : Nat) (typeName : String) {message message' : Message}
    (h : message.Reordered message') :
    table.evaluate reporting limit levels typeName message =
      table.evaluate reporting limit levels typeName message' :=
  evaluate_eq_of_outcome_eq (fun _ => Message.Reordered) (fun h => h.typeName_eq)
    (fun hvisit _ _ _ _ check h _ _ => Check.outcome_eq_of_reordered hvisit h check)
    limit levels h

/-! ## Validators -/

namespace Sample

/-- Teams have nodes as their members, by number. -/
def teamType : MessageType where
  fullName := "Team"
  fields := [⟨"members", "Team.members", "members", 1, .message "Node", .map .int32, none, []⟩]
  oneofs := []
  extensions := []
  options := []

def teamCatalog : Catalog := .single ⟨[("Node", nodeType), ("Team", teamType)]⟩

/-- All members of a team have to be in order, and a node needs a name. -/
def teamRules : ValidatorOption :=
  .rules (.ofList
    [⟨"Team", .field "members", .recurse true⟩, ⟨"Node", .field "name", .required true⟩])

/-- The entries for two nameless members with some numbers. -/
def nameless₂ (first second : Int32) : List (MapKey × Value) :=
  [(.int32 first, .message "Node" []), (.int32 second, .message "Node" [])]

/-- A team whose members are stored in the given order. -/
def team (first second : Int32) : Message := ⟨"Team", [(1, .map (nameless₂ first second))]⟩

theorem reordered_team : Message.Reordered (team 10 (-2)) (team (-2) 10) := by
  have hsame : SameEntries (nameless₂ 10 (-2)) (nameless₂ (-2) 10) :=
    @SameEntries.reorder .int32 _ _ (.swap _ _ _) (by decide) (by simp [nameless₂, MapKey.IsOf])
  refine .message (fun number => ?_) fun number value value' hvalue hvalue' => ?_
  · rcases number with _ | _ | n <;> rfl
  · rcases number with _ | _ | n
    · cases hvalue
    · cases hvalue
      cases hvalue'
      exact .of_sameEntries hsame
    · cases hvalue

end Sample

namespace Validator

/-- **The order in which maps are stored does not matter.**  For messages that differ only in the
order of the entries of maps, at any depth, every validator comes to the same outcome and is left in
the same state, whatever it has compiled and been asked before, in both modes and with all options
of the call: the violations are the same and in the same order, and where entries cannot be
evaluated, it is for the same entry. -/
theorem validate_eq_of_reordered (validator : Validator) (pool : Nat) {message message' : Message}
    (h : message.Reordered message') :
    (∀ options, validator.validate pool message options =
      validator.validate pool message' options) ∧
    validator.violations pool message = validator.violations pool message' := by
  have hvalidate : ∀ options, validator.validate pool message options =
      validator.validate pool message' options := fun options =>
    validate_congr h.typeName_eq fun reporting limit =>
      CheckTable.evaluate_eq_of_reordered _ reporting limit limit message.typeName h
  refine ⟨hvalidate, ?_⟩
  simp only [violations, hvalidate]

/-- The member that is reported first is the one with the lowest number, also where it is stored
last. -/
theorem validate_eq_of_reordered_team :
    ((withOptions Sample.teamCatalog .written [Sample.teamRules]).validate 0 (Sample.team 10 (-2))
        [.failFast]).2.found.toOption.map (fun vs => vs.map (·.path)) =
      some [[.field "members", .key "-2"], [.field "members", .key "-2", .field "name"]] := by
  have hvalidate := (validate_eq_of_reordered
    (withOptions Sample.teamCatalog .written [Sample.teamRules]) 0 Sample.reordered_team).1
  rw [hvalidate]
  cbv

end Validator

end MessageConstraints
