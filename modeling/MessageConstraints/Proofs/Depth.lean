import Mathlib.Tactic.Common
import MessageConstraints.Proofs.Visiting

/-!
# The limit on levels

A validation goes down a limited number of levels of nested messages.  A higher limit changes
nothing about a message unless some nested message lay too deep (`CheckTable.settles_evaluate`),
and one does exactly if there is a chain of nested messages, each in a field of the one before that
asks for recursion, that is longer than the limit (`CheckTable.tooDeep_evaluate_iff`).

Evaluation counts the levels that are left.  Counting those that have been gone down, in a machine
word, comes to the same, and the counter never runs over (`CheckTable.evaluateCounting_eq`).
-/

namespace MessageConstraints

open Outcome

/-! ## Higher limits -/

namespace Outcome

/-- A validation that has ended because a nested message lay too deep. -/
def TooDeep (outcome : Outcome) : Prop :=
  ∃ limit typeName, outcome = .failure (.tooDeep limit typeName)

/-- What a message comes to under a low limit is what it comes to under a high one, unless a nested
message lay too deep. -/
def Settles (low high : Outcome) : Prop :=
  low.TooDeep ∨ high = low

theorem settles_refl (outcome : Outcome) : Settles outcome outcome := Or.inr rfl

theorem Settles.map (f : Violation → Violation) {low high : Outcome} (h : Settles low high) :
    Settles (low.map f) (high.map f) := by
  rcases h with ⟨limit, typeName, rfl⟩ | rfl
  · exact Or.inl ⟨limit, typeName, rfl⟩
  · exact settles_refl _

theorem settles_followedBy {mode : Reporting} {low high low' high' : Outcome}
    (h : Settles low high) (h' : Settles low' high') :
    Settles (low.followedBy mode low') (high.followedBy mode high') := by
  rcases h with ⟨limit, typeName, rfl⟩ | rfl
  · exact Or.inl ⟨limit, typeName, rfl⟩
  · cases high with
    | pass => exact h'
    | failure cause => exact settles_refl _
    | violations vs =>
      cases mode with
      | failFast => exact settles_refl _
      | collect =>
        rcases h' with ⟨limit, typeName, rfl⟩ | rfl
        -- What has been found is given up when a later message lies too deep.
        · exact Or.inl ⟨limit, typeName, rfl⟩
        · exact settles_refl _

theorem settles_compose (field : String) (steps : FieldPath) {low high : Outcome}
    (h : Settles low high) :
    Settles (Check.compose field steps low) (Check.compose field steps high) := by
  rcases h with ⟨limit, typeName, rfl⟩ | rfl
  · exact Or.inl ⟨limit, typeName, rfl⟩
  · exact settles_refl _

theorem settles_congruence : Congruence Settles where
  refl := settles_refl
  map f _ _ h := h.map f
  followedBy _ _ _ _ _ h h' := settles_followedBy h h'
  compose field steps _ _ h := settles_compose field steps h

end Outcome

namespace CheckTable

variable {table : CheckTable} {mode : Reporting} {typeName : String} {message : Message}

/-- More levels change nothing unless a nested message lay too deep. -/
theorem settles_evaluate (limit limit' : Nat) {levels levels' : Nat} (hle : levels ≤ levels') :
    Settles (table.evaluate mode limit levels typeName message)
      (table.evaluate mode limit' levels' typeName message) := by
  induction levels generalizing levels' typeName message with
  | zero =>
    -- Without levels left, every nested message that is visited lies too deep.
    have hdeep : ∀ nested high,
        Settles (.failure (.tooDeep limit (Message.typeName nested))) high :=
      fun nested _ => Or.inl ⟨limit, nested.typeName, rfl⟩
    cases levels' with
    | zero => exact settles_congruence.judge rfl (fun _ nested => hdeep nested _) message
    | succ below => exact settles_congruence.judge rfl (fun _ nested => hdeep nested _) message
  | succ below ih =>
    obtain ⟨below', rfl⟩ : ∃ below', levels' = below' + 1 := ⟨levels' - 1, by omega⟩
    exact settles_congruence.judge rfl (fun _ _ => ih (by omega)) message

end CheckTable

/-! ## Chains of nested messages -/

/-- A number of steps, each from a message under a type name to one nested in it. -/
inductive Chain (step : String → Message → String → Message → Prop) :
    Nat → String → Message → String → Message → Prop
  | here {typeName : String} {message : Message} : Chain step 0 typeName message typeName message
  | inwards {length : Nat} {typeName nestedType innerType : String}
      {message nested inner : Message} :
      step typeName message nestedType nested →
      Chain step length nestedType nested innerType inner →
      Chain step (length + 1) typeName message innerType inner

namespace CheckTable

variable {table : CheckTable} {typeName : String} {message : Message}

/-- Where all types that visits lead to have checks, nothing fails but what lies too deep. -/
theorem tooDeep_of_failure {mode : Reporting} {limit levels : Nat} {cause : Failure}
    (hcompiles : ∀ length innerType inner,
      Chain table.Visits length typeName message innerType inner →
        ∃ checks, table innerType = .ok checks)
    (h : table.evaluate mode limit levels typeName message = .failure cause) :
    (table.evaluate mode limit levels typeName message).TooDeep := by
  cases cause with
  | tooDeep depth nestedType => exact ⟨depth, nestedType, h⟩
  | compilation error =>
    -- The messages from which all chains lead to types with checks are closed under visits.
    refine absurd h (evaluate_ne_compilation (fun typeName message => ∀ length innerType inner,
      Chain table.Visits length typeName message innerType inner →
        ∃ checks, table innerType = .ok checks) ?_ ?_ limit levels hcompiles error)
    · intro typeName message hknown
      exact hknown 0 typeName message .here
    · intro typeName message nestedType nested hknown hvisits length innerType inner hchain
      exact hknown (length + 1) innerType inner (.inwards hvisits hchain)

/-- Collecting goes too deep exactly if a chain of visits is longer than the levels that it has. -/
theorem tooDeep_evaluate_iff (limit levels : Nat)
    (hcompiles : ∀ length innerType inner,
      Chain table.Visits length typeName message innerType inner →
        ∃ checks, table innerType = .ok checks) :
    (table.evaluate .collect limit levels typeName message).TooDeep ↔
      ∃ innerType inner, Chain table.Visits (levels + 1) typeName message innerType inner := by
  induction levels generalizing typeName message with
  | zero =>
    constructor
    · rintro ⟨depth, deepType, hdeep⟩
      rcases judge_eq_failure hdeep with ⟨error, -, heq⟩ | ⟨nestedType, nested, hvisits, -⟩
      · cases heq
      · exact ⟨nestedType, nested, .inwards hvisits .here⟩
    · rintro ⟨innerType, inner, hchain⟩
      cases hchain with
      | inwards hvisits hrest =>
        obtain ⟨cause, hcause⟩ : ∃ cause,
            table.evaluate .collect limit 0 typeName message = .failure cause :=
          exists_failure_judge hvisits rfl
        exact tooDeep_of_failure hcompiles hcause
  | succ below ih =>
    have hnested : ∀ {nestedType : String} {nested : Message},
        table.Visits typeName message nestedType nested →
        ((table.evaluate .collect limit below nestedType nested).TooDeep ↔
          ∃ innerType inner, Chain table.Visits (below + 1) nestedType nested innerType inner) := by
      intro nestedType nested hvisits
      exact ih fun length innerType inner hchain =>
        hcompiles (length + 1) innerType inner (.inwards hvisits hchain)
    constructor
    · rintro ⟨depth, deepType, hdeep⟩
      rcases judge_eq_failure hdeep with ⟨error, -, heq⟩ | ⟨nestedType, nested, hvisits, hinner⟩
      · cases heq
      · obtain ⟨innerType, inner, hchain⟩ := (hnested hvisits).mp ⟨depth, deepType, hinner⟩
        exact ⟨innerType, inner, .inwards hvisits hchain⟩
    · rintro ⟨innerType, inner, hchain⟩
      cases hchain with
      | inwards hvisits hrest =>
        obtain ⟨depth, deepType, hinner⟩ := (hnested hvisits).mpr ⟨innerType, inner, hrest⟩
        obtain ⟨cause, hcause⟩ := exists_failure_judge hvisits hinner
        exact tooDeep_of_failure hcompiles hcause

end CheckTable

/-! ## Counting levels in a machine word -/

mutual

/-- The number of levels of messages that a value holds. -/
def Value.levels : Value → Nat
  | .message _ fields => levelsOfFields fields + 1
  | .list items => levelsOfItems items
  | .map entries => levelsOfEntries entries
  | _ => 0

/-- The number of levels of messages that the fields of a message hold. -/
def levelsOfFields : List (Nat × Value) → Nat
  | [] => 0
  | (_, value) :: rest => max value.levels (levelsOfFields rest)

/-- The number of levels of messages that the elements of a list hold. -/
def levelsOfItems : List Value → Nat
  | [] => 0
  | value :: rest => max value.levels (levelsOfItems rest)

/-- The number of levels of messages that the values of a map hold. -/
def levelsOfEntries : List (MapKey × Value) → Nat
  | [] => 0
  | (_, value) :: rest => max value.levels (levelsOfEntries rest)

end

/-- The number of levels of nested messages below a message. -/
def Message.nesting (message : Message) : Nat := levelsOfFields message.fields

theorem le_levelsOfFields {number : Nat} {value : Value} {fields : List (Nat × Value)}
    (h : fields.lookup number = some value) : value.levels ≤ levelsOfFields fields := by
  induction fields with
  | nil => cases h
  | cons entry rest ih =>
    obtain ⟨key, stored⟩ := entry
    rw [List.lookup_cons] at h
    rw [levelsOfFields]
    cases hkey : number == key with
    | true =>
      rw [hkey] at h
      obtain rfl := Option.some.inj h
      exact Nat.le_max_left _ _
    | false =>
      rw [hkey] at h
      exact Nat.le_trans (ih h) (Nat.le_max_right _ _)

theorem le_levelsOfItems {value : Value} {items : List Value} (h : value ∈ items) :
    value.levels ≤ levelsOfItems items := by
  induction items with
  | nil => cases h
  | cons item rest ih =>
    rw [levelsOfItems]
    rcases List.mem_cons.mp h with rfl | hrest
    · exact Nat.le_max_left _ _
    · exact Nat.le_trans (ih hrest) (Nat.le_max_right _ _)

theorem le_levelsOfEntries {key : MapKey} {value : Value} {entries : List (MapKey × Value)}
    (h : (key, value) ∈ entries) : value.levels ≤ levelsOfEntries entries := by
  induction entries with
  | nil => cases h
  | cons entry rest ih =>
    rw [levelsOfEntries]
    rcases List.mem_cons.mp h with rfl | hrest
    · exact Nat.le_max_left _ _
    · exact Nat.le_trans (ih hrest) (Nat.le_max_right _ _)

/-- What is read from a field is stored, or the field is empty. -/
theorem Message.levels_get_le {message : Message} {field : Field}
    (hempty : field.default.levels = 0) : (message.get field).levels ≤ message.nesting := by
  unfold Message.get
  cases hstored : message.stored? field.number with
  | none =>
    rw [Option.getD_none, hempty]
    exact Nat.zero_le _
  | some value => exact le_levelsOfFields hstored

/-- A nested message has fewer levels below it than the message around it. -/
theorem Field.Nests.nesting_lt {field : Field} {message nested : Message} {place : FieldPath}
    (h : field.Nests message place nested) : nested.nesting < message.nesting := by
  have hlevels : nested.nesting + 1 = nested.toValue.levels := by
    rw [Message.toValue, Value.levels, Message.nesting]
  rw [Nat.lt_iff_add_one_le, hlevels]
  cases h with
  | single _ hstored => exact le_levelsOfFields hstored
  | element hshape hlist hitem =>
    have hempty : field.default.levels = 0 := by
      simp only [Field.default, hshape, Value.levels, levelsOfItems]
    have hle : (message.get field).levels ≤ message.nesting := Message.levels_get_le hempty
    rw [hlist, Value.levels] at hle
    exact Nat.le_trans (le_levelsOfItems (List.mem_of_getElem? hitem)) hle
  | entry hshape hmap hentry =>
    have hempty : field.default.levels = 0 := by
      simp only [Field.default, hshape, Value.levels, levelsOfEntries]
    have hle : (message.get field).levels ≤ message.nesting := Message.levels_get_le hempty
    rw [hmap, Value.levels] at hle
    exact Nat.le_trans (le_levelsOfEntries hentry) hle

namespace CheckTable

variable {table : CheckTable} {typeName nestedType : String} {message nested : Message}

theorem Visits.nesting_lt (h : table.Visits typeName message nestedType nested) :
    nested.nesting < message.nesting := by
  obtain ⟨checks, field, steps, -, -, hnested⟩ := h
  exact (Check.mem_nestedMessages.mp hnested).nesting_lt

/-- A counter that does not run over counts on. -/
theorem toNat_add_one {depth : UInt64} (h : depth.toNat + 1 ≠ UInt64.size) :
    (depth + 1).toNat = depth.toNat + 1 := by
  have hlt := depth.toNat_lt_size
  have hsmall : depth.toNat + 1 < 2 ^ 64 := by
    simp only [UInt64.size] at *
    omega
  rw [UInt64.toNat_add]
  exact Nat.mod_eq_of_lt hsmall

/-- What a message comes to when the levels that have been gone down are counted in a machine word.
The message lies `depth` levels down, and `overflow` says what a nested message is to come to for
which the counter runs over. -/
def evaluateCounting (table : CheckTable) (mode : Reporting) (limit : UInt64)
    (overflow : String → Message → Outcome) (depth : UInt64) : String → Message → Outcome :=
  table.judge mode fun typeName nested =>
    if depth.toNat + 1 = UInt64.size then overflow typeName nested
    else if limit < depth + 1 then .failure (.tooDeep limit.toNat nested.typeName)
    else evaluateCounting table mode limit overflow (depth + 1) typeName nested
termination_by limit.toNat - depth.toNat
decreasing_by
  have hsucc := toNat_add_one ‹_›
  have hle := UInt64.not_lt.mp ‹¬ limit < depth + 1›
  rw [UInt64.le_iff_toNat_le, hsucc] at hle
  omega

/-- **The counter never runs over.**  Whatever would come of it, a message comes to what it comes
to when the levels are counted that are left, provided that it lies in a message with fewer levels
than there are words. -/
theorem evaluateCounting_eq (mode : Reporting) (limit : UInt64)
    (overflow : String → Message → Outcome) {depth : UInt64} (hdepth : depth.toNat ≤ limit.toNat)
    (hnesting : depth.toNat + message.nesting < UInt64.size) :
    table.evaluateCounting mode limit overflow depth typeName message =
      table.evaluate mode limit.toNat (limit.toNat - depth.toNat) typeName message := by
  induction hleft : limit.toNat - depth.toNat generalizing depth typeName message with
  | zero =>
    rw [evaluateCounting, evaluate]
    refine judge_congr_visits fun nestedType nested hvisits => ?_
    have hlt := hvisits.nesting_lt
    have hfits : depth.toNat + 1 ≠ UInt64.size := by omega
    have hover : limit < depth + 1 := by
      rw [UInt64.lt_iff_toNat_lt, toNat_add_one hfits]
      omega
    rw [if_neg hfits, if_pos hover]
  | succ below ih =>
    rw [evaluateCounting, evaluate]
    refine judge_congr_visits fun nestedType nested hvisits => ?_
    have hlt := hvisits.nesting_lt
    have hfits : depth.toNat + 1 ≠ UInt64.size := by omega
    have hsucc := toNat_add_one hfits
    have hunder : ¬ limit < depth + 1 := by
      rw [UInt64.lt_iff_toNat_lt, hsucc]
      omega
    rw [if_neg hfits, if_neg hunder]
    refine ih ?_ ?_ ?_
    · rw [hsucc]
      omega
    · rw [hsucc]
      omega
    · rw [hsucc]
      omega

end CheckTable

/-! ## Validators -/

namespace Store

/-- Every type that a chain of nested messages leads to compiles. -/
def CompilesAlong (store : Store) (typeName : String) (message : Message) : Prop :=
  ∀ length innerType inner, Chain store.Descends length typeName message innerType inner →
    ∃ checks, store.checks innerType = .ok checks

variable {store : Store} {typeName innerType : String} {message inner : Message} {length : Nat}

theorem GoesBySchemas.chain_descends (h : store.GoesBySchemas)
    (hchain : Chain (CheckTable.Visits store.checks) length typeName message innerType inner) :
    Chain store.Descends length typeName message innerType inner := by
  induction hchain with
  | here => exact .here
  | inwards hvisits _ ih =>
    obtain ⟨checks, -, -, hchecks, -⟩ := id hvisits
    exact .inwards ((h.visits_iff_descends hchecks).mp hvisits) ih

theorem GoesBySchemas.chain_visits (h : store.GoesBySchemas)
    (hcompiles : store.CompilesAlong typeName message)
    (hchain : Chain store.Descends length typeName message innerType inner) :
    Chain (CheckTable.Visits store.checks) length typeName message innerType inner := by
  induction hchain with
  | here => exact .here
  | inwards hdescends _ ih =>
    obtain ⟨checks, hchecks⟩ := hcompiles _ _ _ .here
    refine .inwards ((h.visits_iff_descends hchecks).mpr hdescends) (ih ?_)
    intro length innerType inner hrest
    exact hcompiles (length + 1) innerType inner (.inwards hdescends hrest)

end Store

namespace Validator

/-- The store that a validator evaluates a message from, once it has loaded its type. -/
def storeFor (validator : Validator) (pool : Nat) (message : Message) : Store :=
  (validator.validate pool message []).1.store

theorem report_eq_evaluate (validator : Validator) (reporting : Reporting) (depth pool : Nat)
    (message : Message) :
    validator.report reporting depth pool message =
      CheckTable.evaluate (validator.storeFor pool message).checks reporting depth depth
        message.typeName message := by
  unfold report storeFor validate load
  cases validator.isLazy <;> rfl

/-- Whatever a validator has been asked, it goes by the schemas that it keeps. -/
theorem goesBySchemas_storeFor (catalog : Catalog) (order : NameOrder)
    (options : List ValidatorOption) (history : List Request) (pool : Nat)
    (message : Message) :
    ((((withOptions catalog order options).answerAll history).1).storeFor pool
      message).GoesBySchemas := by
  have hinvariant := Store.invariant_goesBySchemas
  have hnew : (withOptions catalog order options).store.GoesBySchemas :=
    (hinvariant _).preloadAll Store.goesBySchemas_empty _
  have hused := (hinvariant _).answerAll hnew history
  exact (hinvariant _).validate hused pool message []

/-- **The limit on levels is exact, and all it ever does is end a validation.**  Take a validator
that has been made with some options and has been asked anything, of any pools.

In either mode, if a validation does not end because a nested message lies too deep, a higher limit
gives the same result.  When all violations are collected, and every type compiles that is come
upon, a validation ends in this way exactly if the message has a chain of nested messages that is
one longer than the limit, each held by a field of the one before that asks for recursion.  And if
the levels that have been gone down are counted in a machine word, with any limit that it can hold,
then the counter never runs over: whatever came of that, the result would be the same. -/
theorem depth_limit_exact (catalog : Catalog) (order : NameOrder)
    (options : List ValidatorOption) (history : List Request) (pool : Nat) {message : Message}
    (hnesting : message.nesting < UInt64.size) :
    let validator := ((withOptions catalog order options).answerAll history).1
    let store := validator.storeFor pool message
    (∀ reporting depth depth', depth ≤ depth' →
      ¬ (validator.report reporting depth pool message).TooDeep →
        validator.report reporting depth' pool message =
          validator.report reporting depth pool message) ∧
    (store.CompilesAlong message.typeName message →
      ∀ depth, (validator.report .collect depth pool message).TooDeep ↔
        ∃ innerType inner,
          Chain store.Descends (depth + 1) message.typeName message innerType inner) ∧
    (∀ reporting (limit : UInt64) overflow,
      CheckTable.evaluateCounting store.checks reporting limit overflow 0 message.typeName message =
        validator.report reporting limit.toNat pool message) ∧
    ∀ options, (validator.validate pool message options).2 =
      validator.report (validator.manner.withOptions options).reporting
        (validator.manner.withOptions options).maxDepth pool message := by
  intro validator store
  have hschemas : store.GoesBySchemas :=
    goesBySchemas_storeFor catalog order options history pool message
  refine ⟨?_, ?_, ?_, validator.validate_eq_report pool message⟩
  · intro reporting depth depth' hle hshallow
    rw [report_eq_evaluate, report_eq_evaluate]
    rw [report_eq_evaluate] at hshallow
    exact (CheckTable.settles_evaluate depth depth' hle).resolve_left hshallow
  · intro hcompiles depth
    have hvisits : ∀ length innerType inner,
        Chain (CheckTable.Visits store.checks) length message.typeName message innerType inner →
          ∃ checks, store.checks innerType = .ok checks := by
      intro length innerType inner hchain
      exact hcompiles length innerType inner (hschemas.chain_descends hchain)
    rw [report_eq_evaluate, CheckTable.tooDeep_evaluate_iff depth depth hvisits]
    constructor
    · rintro ⟨innerType, inner, hchain⟩
      exact ⟨innerType, inner, hschemas.chain_descends hchain⟩
    · rintro ⟨innerType, inner, hchain⟩
      exact ⟨innerType, inner, hschemas.chain_visits hcompiles hchain⟩
  · intro reporting limit overflow
    rw [report_eq_evaluate]
    refine CheckTable.evaluateCounting_eq reporting limit overflow ?_ ?_
    · exact Nat.zero_le _
    · simpa using hnesting

end Validator

/-! ## A node with a child -/

namespace Sample

/-- The store that nodes are evaluated from. -/
def nodeStore : Store := validator.storeFor 0 nameless

theorem settled_node : nodeStore.Faithful validator.sources 0 ∧ nodeStore.GoesBySchemas ∧
    ∃ checks, nodeStore.checks "Node" = .ok checks := by
  have harises : validator.Arises catalog [rules] [] := ⟨by simp, _, rfl⟩
  have hsettled : validator.Settled 0 := harises.settled
  have hfaithful : nodeStore.Faithful validator.sources 0 :=
    (Validator.keeps_validate hsettled nameless []).settled.1
  have hcovers : nodeStore.Covers validator.sources 0 "Node" :=
    (hsettled.record (.validating "Node")).settled.covers_load (Or.inl rfl)
  refine ⟨hfaithful, Validator.goesBySchemas_storeFor catalog .written [rules] [] 0 nameless, ?_⟩
  rw [hfaithful.checks_eq hcovers]
  exact ⟨_, rfl⟩

/-- The only node below the nameless one is its child, and there is none below that. -/
theorem chain_nameless {length : Nat} {innerType : String} {inner : Message}
    (h : Chain nodeStore.Descends length "Node" nameless innerType inner) :
    innerType = "Node" ∧ length ≤ 1 := by
  obtain ⟨hfaithful, hgoes, checks, hchecks⟩ := settled_node
  have hplaced : ∀ {message nested : Message} {nestedType : String},
      nodeStore.Descends "Node" message nestedType nested →
        ∃ place, validator.sources.Descends 0 "Node" message place nestedType nested :=
    fun hdescends => (hfaithful.descends_iff hgoes hchecks).mp hdescends
  cases h with
  | here => exact ⟨rfl, Nat.zero_le 1⟩
  | inwards hchild hinner =>
    obtain ⟨place, hchild⟩ := hplaced hchild
    obtain ⟨rfl, rfl⟩ := eq_of_descends_nameless hchild
    cases hinner with
    | here => exact ⟨rfl, Nat.le_refl 1⟩
    | inwards hnone =>
      obtain ⟨inside, hnone⟩ := hplaced hnone
      exact absurd hnone not_descends_empty

theorem chain_child : Chain nodeStore.Descends 1 "Node" nameless "Node" ⟨"Node", []⟩ := by
  obtain ⟨hfaithful, hgoes, checks, hchecks⟩ := settled_node
  exact .inwards ((hfaithful.descends_iff hgoes hchecks).mpr ⟨_, descends_child⟩) .here

end Sample

namespace Validator

/-- A node with a child needs one level, and no more. -/
theorem depth_limit_exact_nameless :
    (Sample.validator.report .collect 0 0 Sample.nameless).TooDeep ∧
      ¬ (Sample.validator.report .collect 1 0 Sample.nameless).TooDeep ∧
      Sample.validator.report .collect 64 0 Sample.nameless =
        Sample.validator.report .collect 1 0 Sample.nameless := by
  have hnesting : Sample.nameless.nesting < UInt64.size := by decide
  obtain ⟨hsettles, hdeep, -, -⟩ :=
    depth_limit_exact Sample.catalog .written [Sample.rules] [] 0 hnesting
  have hcompiles : Sample.nodeStore.CompilesAlong "Node" Sample.nameless := by
    intro length innerType inner hchain
    obtain ⟨rfl, -⟩ := Sample.chain_nameless hchain
    exact Sample.settled_node.2.2
  have hzero : (Sample.validator.report .collect 0 0 Sample.nameless).TooDeep :=
    (hdeep hcompiles 0).mpr ⟨_, _, Sample.chain_child⟩
  have hone : ¬ (Sample.validator.report .collect 1 0 Sample.nameless).TooDeep := by
    intro htooDeep
    obtain ⟨innerType, inner, hchain⟩ := (hdeep hcompiles 1).mp htooDeep
    exact absurd (Sample.chain_nameless hchain).2 (by omega)
  exact ⟨hzero, hone, hsettles .collect 1 64 (by omega) hone⟩

end Validator

end MessageConstraints
