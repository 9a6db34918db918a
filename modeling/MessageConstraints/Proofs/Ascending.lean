import Mathlib.Tactic.Common
import MessageConstraints.Proofs.Listing
import MessageConstraints.Proofs.Ranks

/-!
# The violations of one constraint ascend

A rule on single values has one violation for a value at most.  A constraint on a field goes through
the values of the field one after the other, so that its violations are in order, all at the
position of the field (`FieldSchema.orderedAt_compile_own`); a constraint on a oneof or on the
message as a whole has one violation at most.
-/

namespace MessageConstraints

open Outcome

/-! ## Constraints on a field -/

/-- Violations of a message are in order, and all in groups of one kind at one position. -/
def Sources.OrderedAt (sources : Sources) (pool : Nat) (message : Message) (kind : ConstraintKind)
    (position : Nat) (vs : List Violation) : Prop :=
  ∃ ranks, sources.Ordered pool message ranks vs ∧
    ∀ rank ∈ ranks, rank.kind = kind ∧ rank.position = position

section

variable {sources : Sources} {pool : Nat} {message : Message} {type : MessageType}
  {kind : ConstraintKind} {position : Nat}

theorem Sources.orderedAt_nil : sources.OrderedAt pool message kind position [] :=
  ⟨[], .nil, by simp⟩

/-- What is flagged at a place is in order, with the rank of the place. -/
theorem Outcome.Flags.ordered
    (htype : sources.catalog.type? ⟨pool, message.typeName⟩ = some type) {element : Element}
    {place : FieldPath} (hrank : type.Ranks ⟨kind, position, element⟩ place)
    (hown : kind ≠ .recurse) {outcome : Outcome} (h : outcome.Flags kind place) :
    ∃ ranks, sources.Ordered pool message ranks
        (outcome.listed.map (.inMessage message.typeName)) ∧
      ∀ rank ∈ ranks, rank = ⟨kind, position, element⟩ := by
  cases h with
  | pass => exact ⟨[], .nil, by simp⟩
  | @single v hpath hkind =>
    refine ⟨[⟨kind, position, element⟩], ?_, by simp⟩
    refine .own htype ?_ hkind hown (by simp) .nil
    rw [← hpath] at hrank
    exact hrank

theorem Outcome.Flags.orderedAt
    (htype : sources.catalog.type? ⟨pool, message.typeName⟩ = some type) {element : Element}
    {place : FieldPath} (hrank : type.Ranks ⟨kind, position, element⟩ place)
    (hown : kind ≠ .recurse) {outcome : Outcome} (h : outcome.Flags kind place) :
    sources.OrderedAt pool message kind position
      (outcome.listed.map (.inMessage message.typeName)) := by
  obtain ⟨ranks, hordered, hranks⟩ := h.ordered htype hrank hown
  refine ⟨ranks, hordered, fun rank hmem => ?_⟩
  rw [hranks rank hmem]
  exact ⟨rfl, rfl⟩

/-- What some things contribute to the violations at a position is in order if each contributes at
an element of its own, and the elements ascend. -/
theorem Sources.orderedAt_flatMap {α : Type} {things : List α} (element : α → Element)
    {f : α → List Violation}
    (h : ∀ a ∈ things, ∃ ranks, sources.Ordered pool message ranks (f a) ∧
      ∀ rank ∈ ranks, rank = ⟨kind, position, element a⟩)
    (hascending : things.Pairwise fun a b => (element a).Before (element b)) :
    sources.OrderedAt pool message kind position (things.flatMap f) := by
  have hbefore : things.Pairwise fun a b => ∀ rank rank' : Rank,
      rank = ⟨kind, position, element a⟩ → rank' = ⟨kind, position, element b⟩ →
        rank.Before rank' := by
    refine hascending.imp ?_
    rintro a b hlt _ _ rfl rfl
    exact Or.inr ⟨rfl, Or.inr ⟨rfl, hlt⟩⟩
  obtain ⟨ranks, hordered, hranks⟩ := Ordered.flatMap h hbefore
  refine ⟨ranks, hordered, fun rank hmem => ?_⟩
  obtain ⟨a, -, rfl⟩ := hranks rank hmem
  exact ⟨rfl, rfl⟩

variable {field : Field}

/-- A rule on single values goes through a list from its beginning to its end. -/
theorem Check.orderedAt_each
    (htype : sources.catalog.type? ⟨pool, message.typeName⟩ = some type)
    (hfield : type.fields[position]? = some field) (htarget : kind.target = .field)
    (hown : kind ≠ .recurse) {rule : Value → Outcome} (hrule : ∀ value, (rule value).Flags kind [])
    (value : Value) :
    sources.OrderedAt pool message kind position
      (((eachOutcome .collect rule value).map (.below [.field field.name])).listed.map
        (.inMessage message.typeName)) := by
  have hrank : ∀ element : Element, element.IsOf field.shape →
      type.Ranks ⟨kind, position, element⟩ (.field field.name :: element.steps) :=
    fun element helement => .field htarget hfield helement
  have hwhole : sources.OrderedAt pool message kind position
      (((rule value).map (.below [.field field.name])).listed.map
        (.inMessage message.typeName)) :=
    ((hrule value).below [.field field.name]).orderedAt htype (hrank .whole trivial) hown
  cases value with
  | list items =>
    have hlisted : (eachOutcome .collect rule (.list items)).listed =
        items.zipIdx.flatMap fun entry =>
          ((rule entry.1).map (.below [.index entry.2])).listed :=
      listed_of_found (found_gather fun entry _ => ((hrule entry.1).below _).found)
    rw [listed_map, hlisted, List.map_flatMap, List.map_flatMap]
    refine Sources.orderedAt_flatMap (fun entry : Value × Nat => .index entry.2)
      (fun entry _ => ?_) (pairwise_zipIdx items)
    rw [← listed_map]
    have hflags := ((hrule entry.1).below [.index entry.2]).below [.field field.name]
    exact hflags.ordered htype (hrank (.index entry.2) trivial) hown
  | _ => exact hwhole

/-- The rule on duplicates goes through a list from its beginning to its end. -/
theorem Check.orderedAt_distinct
    (htype : sources.catalog.type? ⟨pool, message.typeName⟩ = some type)
    (hfield : type.fields[position]? = some field) (value : Value) :
    sources.OrderedAt pool message .distinct position
      (((distinctOutcome .collect field.name value).map (.below [.field field.name])).listed.map
        (.inMessage message.typeName)) := by
  cases value with
  | list items =>
    have hlisted : (distinctOutcome .collect field.name (.list items)).listed =
        (laterDuplicates items).map (duplicateViolation field.name) := by
      rw [distinctOutcome_collect]
      exact listed_of_found (found_ofList _)
    rw [listed_map, hlisted, List.map_map, List.map_map, List.map_eq_flatMap]
    refine Sources.orderedAt_flatMap (fun later : Value × Nat × Nat => .index later.2.1)
      (fun later _ => ?_) (laterDuplicates_ascending items)
    refine ⟨[⟨.distinct, position, .index later.2.1⟩], ?_, by simp⟩
    exact .own htype (.field rfl hfield trivial) rfl (by rintro ⟨⟩) (by simp) .nil
  | _ => exact Sources.orderedAt_nil

namespace FieldSchema

variable {schema : FieldSchema} {owner : MessageSchema} {constraint : Constraint}

/-- The check of a number rule goes through the values of its field in order. -/
theorem orderedAt_compileNumber
    (htype : sources.catalog.type? ⟨pool, message.typeName⟩ = some type)
    (hfield : type.fields[position]? = some schema.field)
    (htarget : constraint.kind.target = .field) (hown : constraint.kind ≠ .recurse)
    {read : {α : Type} → [Measure α] → Except CompileError (NumberRule α)}
    (hread : ∀ {α : Type} [Measure α] {rule : NumberRule α}, read = .ok rule →
      rule.Tests schema.name constraint)
    {check : Check} (h : schema.compileNumber kind read = .ok check)
    (visit : String → Message → Outcome) :
    sources.OrderedAt pool message constraint.kind position
      ((check.outcome .collect visit message).listed.map (.inMessage message.typeName)) := by
  have hflags : ∀ {α : Type} [Measure α] {rule : NumberRule α}, read = .ok rule →
      ∀ value, (rule.check schema.field.name value).Flags constraint.kind [] := by
    intro α _ rule hrule value
    rw [← (hread hrule).kind_eq]
    exact flags_numberRule rule schema.field.name value
  unfold compileNumber at h
  split at h
  case h_5 => cases h
  -- The families of numbers differ in the rule that is read, and in nothing else.
  all_goals
    obtain ⟨rule, hrule, rfl⟩ := map_eq_ok_iff.mp h
    exact Check.orderedAt_each htype hfield htarget hown (hflags hrule) _

/-- What comes of a constraint on the values of a field is in order. -/
theorem orderedAt_compile_own
    (htype : sources.catalog.type? ⟨pool, message.typeName⟩ = some type)
    (hfield : type.fields[position]? = some schema.field) (hown : constraint ≠ .recurse true)
    {check : Option Check} (h : schema.compile owner constraint = .ok check)
    (visit : String → Message → Outcome) :
    sources.OrderedAt pool message constraint.kind position
      ((Check.collected visit message check).listed.map (.inMessage message.typeName)) := by
  have hrank : ∀ kind : ConstraintKind, kind.target = .field →
      type.Ranks ⟨kind, position, .whole⟩ [.field schema.field.name] :=
    fun kind htarget => .field htarget hfield trivial
  cases constraint with
  | required on =>
    cases on with
    | false =>
      obtain rfl := Except.ok.inj h
      exact Sources.orderedAt_nil
    | true =>
      obtain rfl := Except.ok.inj h
      have hflags : (Check.collected visit message (some (.required schema.field))).Flags .required
          [.field schema.field.name] := flags_demand _ rfl rfl
      exact hflags.orderedAt htype (hrank .required rfl) (by decide)
  | pattern rule =>
    obtain ⟨check, hcheck, rfl⟩ := map_eq_ok_iff.mp h
    obtain ⟨regex, rfl⟩ := exists_pattern_of_compilePattern hcheck
    have hflags := flags_pattern schema.field.name regex rule.message
    exact Check.orderedAt_each htype hfield rfl (by rintro ⟨⟩) hflags _
  | min rule =>
    obtain ⟨check, hcheck, rfl⟩ := map_eq_ok_iff.mp h
    exact orderedAt_compileNumber htype hfield rfl (by rintro ⟨⟩) NumberRule.tests_ofMin hcheck
      visit
  | max rule =>
    obtain ⟨check, hcheck, rfl⟩ := map_eq_ok_iff.mp h
    exact orderedAt_compileNumber htype hfield rfl (by rintro ⟨⟩) NumberRule.tests_ofMax hcheck
      visit
  | range source =>
    obtain ⟨check, hcheck, rfl⟩ := map_eq_ok_iff.mp h
    exact orderedAt_compileNumber htype hfield rfl (by rintro ⟨⟩) NumberRule.tests_ofRange hcheck
      visit
  | distinct on =>
    cases on with
    | false =>
      obtain rfl := Except.ok.inj h
      exact Sources.orderedAt_nil
    | true =>
      simp only [compile] at h
      split at h
      · cases h
      · obtain rfl := Except.ok.inj h
        exact Check.orderedAt_distinct htype hfield _
  | dependency rule =>
    simp only [compile] at h
    split at h
    case h_1 partner _ =>
      obtain rfl := Except.ok.inj h
      have hflags : (Check.collected visit message (some (.dependency schema.field partner.field
          rule.message))).Flags .dependency [.field schema.field.name] := flags_demand _ rfl rfl
      exact hflags.orderedAt htype (hrank .dependency rfl) (by decide)
    case h_2 => cases h
  | recurse on =>
    cases on with
    | false =>
      obtain rfl := Except.ok.inj h
      exact Sources.orderedAt_nil
    | true => exact absurd rfl hown
  | choice rule => cases h
  | combination source => cases h

end FieldSchema

/-! ## Constraints on oneofs and messages -/

theorem OneofSchema.orderedAt_compile {schema : OneofSchema} {constraint : Constraint}
    (htype : sources.catalog.type? ⟨pool, message.typeName⟩ = some type)
    (honeof : type.oneofs[position]? = some schema.oneof) {check : Option Check}
    (h : schema.compile constraint = .ok check) (visit : String → Message → Outcome) :
    sources.OrderedAt pool message constraint.kind position
      ((Check.collected visit message check).listed.map (.inMessage message.typeName)) := by
  cases constraint with
  | choice rule =>
    obtain rfl := Except.ok.inj h
    split
    · have hrank : type.Ranks ⟨.choice, position, .whole⟩ [.field schema.oneof.name] :=
        .oneof rfl honeof
      have hflags : (Check.collected visit message (some (.choice schema.oneof rule.message))).Flags
          .choice [.field schema.oneof.name] := flags_demand _ rfl rfl
      exact hflags.orderedAt htype hrank (by decide)
    · exact Sources.orderedAt_nil
  | _ =>
    obtain rfl := Except.ok.inj h
    exact Sources.orderedAt_nil

theorem MessageSchema.orderedAt_compile {schema : MessageSchema} {constraint : Constraint}
    (htype : sources.catalog.type? ⟨pool, message.typeName⟩ = some type) {check : Option Check}
    (h : schema.compile constraint = .ok check) (visit : String → Message → Outcome) :
    sources.OrderedAt pool message constraint.kind 0
      ((Check.collected visit message check).listed.map (.inMessage message.typeName)) := by
  cases constraint with
  | combination source =>
    simp only [compile, compileCombination] at h
    split at h
    · cases h
    case h_2 expression _ =>
      split at h
      · cases h
      · obtain rfl := Except.ok.inj h
        have hrank : type.Ranks ⟨.combination, 0, .whole⟩ [] := .message rfl
        have hflags : (Check.collected visit message (some (.combination source expression
            (schema.fields.map (·.field))))).Flags .combination [] := flags_demand _ rfl rfl
        exact hflags.orderedAt htype hrank (by decide)
  | _ =>
    obtain rfl := Except.ok.inj h
    exact Sources.orderedAt_nil

end

end MessageConstraints
