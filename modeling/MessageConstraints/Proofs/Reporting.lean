import Mathlib.Tactic.Common
import MessageConstraints.Proofs.Broken
import MessageConstraints.Proofs.FailFast

/-!
# What outcomes report

An outcome reports what is broken if it is no failure and its violations are at exactly the places
where something of their kind is broken (`Outcome.Reports`).  This is kept by everything that
outcomes go through (`reports_gather`, `reports_compose`, `Reports.below`), and it holds of the
rules that checks apply to values (`Check.reports_each`).
-/

namespace MessageConstraints

/-- A list of violations has one of a kind at a path. -/
def Violation.Listed (vs : List Violation) (path : FieldPath) (kind : ConstraintKind) : Prop :=
  ∃ v ∈ vs, v.path = path ∧ v.kind = kind

namespace Outcome

variable {α : Type} {outcome : Outcome} {broken : FieldPath → ConstraintKind → Prop}

/-- An outcome that is no failure, and that has violations of exactly what is broken. -/
def Reports (outcome : Outcome) (broken : FieldPath → ConstraintKind → Prop) : Prop :=
  ∃ vs, outcome.found = .ok vs ∧ ∀ path kind, Violation.Listed vs path kind ↔ broken path kind

theorem Reports.congr {broken' : FieldPath → ConstraintKind → Prop} (h : outcome.Reports broken)
    (hiff : ∀ path kind, broken path kind ↔ broken' path kind) : outcome.Reports broken' := by
  obtain ⟨vs, hfound, hlisted⟩ := h
  exact ⟨vs, hfound, fun path kind => (hlisted path kind).trans (hiff path kind)⟩

theorem reports_pass (h : ∀ path kind, ¬ broken path kind) : pass.Reports broken :=
  ⟨[], rfl, fun path kind => by simp [Violation.Listed, h path kind]⟩

theorem reports_single (v : Violation) :
    (single v).Reports fun path kind => path = v.path ∧ kind = v.kind :=
  ⟨[v], rfl, fun path kind => by simp [Violation.Listed, eq_comm]⟩

theorem reports_demand (condition : Bool) (v : Violation) :
    (Check.demand condition v).Reports fun path kind =>
      condition = false ∧ path = v.path ∧ kind = v.kind := by
  cases condition with
  | true => exact reports_pass (by simp)
  | false => exact (reports_single v).congr (by simp)

theorem found_map (f : Violation → Violation) (outcome : Outcome) :
    (outcome.map f).found = outcome.found.map (List.map f) := by
  cases outcome <;> rfl

/-- Moving all places inwards by the same steps moves the places of what is reported. -/
theorem Reports.map {f : Violation → Violation} {steps : FieldPath}
    (hkind : ∀ v, (f v).kind = v.kind) (hpath : ∀ v, (f v).path = steps ++ v.path)
    (h : outcome.Reports broken) :
    (outcome.map f).Reports fun path kind =>
      ∃ inner, path = steps ++ inner ∧ broken inner kind := by
  obtain ⟨vs, hfound, hlisted⟩ := h
  refine ⟨vs.map f, by rw [found_map, hfound]; rfl, fun path kind => ?_⟩
  constructor
  · rintro ⟨_, hmem, rfl, rfl⟩
    obtain ⟨v, hv, rfl⟩ := List.mem_map.mp hmem
    rw [hkind]
    exact ⟨v.path, hpath v, (hlisted _ _).mp ⟨v, hv, rfl, rfl⟩⟩
  · rintro ⟨inner, rfl, hbroken⟩
    obtain ⟨v, hv, rfl, rfl⟩ := (hlisted _ _).mpr hbroken
    exact ⟨f v, List.mem_map_of_mem hv, hpath v, hkind v⟩

theorem Reports.below (steps : FieldPath) (h : outcome.Reports broken) :
    (outcome.map (.below steps)).Reports fun path kind =>
      ∃ inner, path = steps ++ inner ∧ broken inner kind :=
  h.map (f := .below steps) (fun _ => rfl) (fun _ => rfl)

/-- Naming the type of the message changes nothing about what is reported. -/
theorem Reports.inMessage (typeName : String) (h : outcome.Reports broken) :
    (outcome.map (.inMessage typeName)).Reports broken := by
  have hmap := h.map (f := .inMessage typeName) (fun _ => rfl)
    (show ∀ v, (Violation.inMessage typeName v).path = [] ++ v.path from fun _ => rfl)
  exact hmap.congr fun path kind => by simp

/-- What is collected from two outcomes in a row. -/
theorem found_followedBy {first second : Outcome} {vs ws : List Violation}
    (hfirst : first.found = .ok vs) (hsecond : second.found = .ok ws) :
    (first.followedBy .collect second).found = .ok (vs ++ ws) := by
  cases first with
  | failure cause => simp [found] at hfirst
  | pass =>
    obtain rfl : [] = vs := Except.ok.inj hfirst
    exact hsecond
  | violations us =>
    obtain rfl : us = vs := Except.ok.inj hfirst
    cases second with
    | failure cause => simp [found] at hsecond
    | pass =>
      obtain rfl : [] = ws := Except.ok.inj hsecond
      rw [List.append_nil]
      rfl
    | violations us =>
      obtain rfl : us = ws := Except.ok.inj hsecond
      rfl

theorem Reports.followedBy {second : Outcome} {broken' : FieldPath → ConstraintKind → Prop}
    (h : outcome.Reports broken) (h' : second.Reports broken') :
    (outcome.followedBy .collect second).Reports fun path kind =>
      broken path kind ∨ broken' path kind := by
  obtain ⟨vs, hfound, hlisted⟩ := h
  obtain ⟨ws, hfound', hlisted'⟩ := h'
  refine ⟨vs ++ ws, found_followedBy hfound hfound', fun path kind => ?_⟩
  show Violation.Listed (vs ++ ws) path kind ↔ broken path kind ∨ broken' path kind
  rw [← hlisted, ← hlisted']
  simp only [Violation.Listed, List.mem_append, or_and_right, exists_or]

/-- Collecting reports what any of the outcomes does. -/
theorem reports_gather {check : α → Outcome} {broken : α → FieldPath → ConstraintKind → Prop}
    {things : List α} (h : ∀ a ∈ things, (check a).Reports (broken a)) :
    (gather .collect check things).Reports fun path kind => ∃ a ∈ things, broken a path kind := by
  induction things with
  | nil => exact reports_pass (by simp)
  | cons a rest ih =>
    rw [gather_cons]
    refine ((h a List.mem_cons_self).followedBy
      (ih fun b hb => h b (List.mem_cons_of_mem a hb))).congr fun path kind => ?_
    simp only [List.mem_cons, or_and_right, exists_or, exists_eq_left]

/-- A nested message is reported together with what is broken in it. -/
theorem reports_compose (field : String) (steps : FieldPath) (h : outcome.Reports broken)
    (hne : outcome ≠ .violations []) :
    (Check.compose field steps outcome).Reports (SeenFrom (.field field :: steps) broken) := by
  cases outcome with
  | failure cause => obtain ⟨vs, hfound, -⟩ := h; simp [found] at hfound
  | pass =>
    obtain ⟨vs, hfound, hlisted⟩ := h
    obtain rfl : [] = vs := Except.ok.inj hfound
    refine reports_pass ?_
    rintro path kind (⟨-, -, innerPath, innerKind, hbroken⟩ | ⟨innerPath, -, hbroken⟩)
    · simpa [Violation.Listed] using (hlisted innerPath innerKind).mpr hbroken
    · simpa [Violation.Listed] using (hlisted innerPath kind).mpr hbroken
  | violations vs =>
    -- There is a violation, so the nested message is broken.
    have hsome : ∃ innerPath innerKind, broken innerPath innerKind := by
      obtain ⟨us, hfound, hlisted⟩ := h
      obtain rfl : vs = us := Except.ok.inj hfound
      obtain ⟨v, hv⟩ := List.exists_mem_of_ne_nil vs (fun hnil => hne (by rw [hnil]))
      exact ⟨v.path, v.kind, (hlisted _ _).mp ⟨v, hv, rfl, rfl⟩⟩
    refine ((reports_single _).followedBy (h.below _)).congr fun path kind => ?_
    exact or_congr_left (and_congr_right fun _ => (and_iff_left hsome).symm)

end Outcome

open Outcome

theorem Value.asMessage?_eq_some_iff {value : Value} {message : Message} :
    value.asMessage? = some message ↔ value = message.toValue := by
  cases value with
  | message typeName fields =>
    constructor
    · intro h
      obtain rfl := Option.some.inj h
      rfl
    · intro h
      rw [h]
      rfl
  | _ => simp [asMessage?, Message.toValue]

/-! ## Rules on values -/

namespace Check

/-- A rule on single values reports the values of a field that it is broken by. -/
theorem reports_each {rule : Value → Outcome} {kind : ConstraintKind} {bad : Value → Prop}
    (hrule : ∀ value, (rule value).Reports fun path kind' =>
      path = [] ∧ kind' = kind ∧ bad value) (field : Field) (message : Message) :
    ((eachOutcome .collect rule (message.get field)).map (.below [.field field.name])).Reports
      fun path kind' => kind' = kind ∧ ∃ value, message.ValueAt field path value ∧ bad value := by
  have hwhole : (∀ items, message.get field ≠ .list items) →
      ((rule (message.get field)).map (.below [.field field.name])).Reports fun path kind' =>
        kind' = kind ∧ ∃ value, message.ValueAt field path value ∧ bad value := by
    intro hno
    refine ((hrule _).below _).congr fun path kind' => ?_
    constructor
    · rintro ⟨_, rfl, rfl, rfl, hbad⟩
      exact ⟨rfl, _, .whole hno, hbad⟩
    · rintro ⟨rfl, value, hvalue, hbad⟩
      cases hvalue with
      | whole => exact ⟨[], rfl, rfl, rfl, hbad⟩
      | element hlist => exact absurd hlist (hno _)
  cases hget : message.get field with
  | list items =>
    have hgather : (eachOutcome .collect rule (.list items)).Reports fun path kind' =>
        ∃ entry ∈ items.zipIdx, ∃ inner, path = [.index entry.2] ++ inner ∧
          inner = [] ∧ kind' = kind ∧ bad entry.1 :=
      reports_gather fun entry _ => (hrule entry.1).below [.index entry.2]
    refine (hgather.below [.field field.name]).congr fun path kind' => ?_
    constructor
    · rintro ⟨_, rfl, ⟨item, index⟩, hmem, _, rfl, rfl, rfl, hbad⟩
      exact ⟨rfl, item, .element hget (List.mem_zipIdx_iff_getElem?.mp hmem), hbad⟩
    · rintro ⟨rfl, value, hvalue, hbad⟩
      cases hvalue with
      | whole hno => exact absurd hget (hno items)
      | element hlist hitem =>
        obtain rfl : items = _ := Value.list.inj (hget.symm.trans hlist)
        exact ⟨_, rfl, (_, _), List.mem_zipIdx_iff_getElem?.mpr hitem, [], rfl, rfl, rfl, hbad⟩
  | _ =>
    rw [← hget]
    simpa [eachOutcome, hget] using hwhole (by simp [hget])

/-- A text is reported if the pattern that its rule stands for is not found in it. -/
theorem reports_pattern {rule : PatternRule} {regex : Pattern} (hreads : rule.Reads regex)
    (field : String) (value : Value) :
    (patternOutcome field regex rule.message value).Reports fun path kind =>
      path = [] ∧ kind = .pattern ∧ FieldSchema.Mismatches rule value := by
  unfold patternOutcome
  split
  case h_2 hno =>
    refine reports_pass ?_
    rintro path kind ⟨-, -, s, -, rfl, -⟩
    exact hno s rfl
  case h_1 s =>
    have hiff : FieldSchema.Mismatches rule (.string s) ↔ s ≠ "" ∧ regex.isFoundIn s = false := by
      constructor
      · rintro ⟨_, regex', heq, hne, hreads', hfound⟩
        obtain rfl := Value.string.inj heq
        exact ⟨hne, hreads.unique hreads' ▸ hfound⟩
      · rintro ⟨hne, hfound⟩
        exact ⟨s, regex, rfl, hne, hreads, hfound⟩
    split
    case isTrue hpass =>
      refine reports_pass ?_
      rintro path kind ⟨-, -, hbad⟩
      obtain ⟨hne, hfound⟩ := hiff.mp hbad
      simp [hne, hfound] at hpass
    case isFalse hfail =>
      refine (reports_single _).congr fun path kind => ?_
      have hbad : FieldSchema.Mismatches rule (.string s) := hiff.mpr (by simpa using hfail)
      exact and_congr_right fun _ => (and_iff_left hbad).symm

/-- A number is reported if the test of its rule does not admit it. -/
theorem reports_numberRule {α : Type} [Measure α] (rule : NumberRule α) (field : String)
    (value : Value) :
    (rule.check field value).Reports fun path kind => path = [] ∧ kind = rule.test.kind ∧
      ∃ x : α, Measure.ofValue? value = some x ∧ rule.test.admits x = false := by
  unfold NumberRule.check
  split
  case h_1 hnone => exact reports_pass (by simp [hnone])
  case h_2 x hsome =>
    split
    case isTrue hadmits => exact reports_pass (by simp [hsome, hadmits])
    case isFalse hadmits =>
      refine (reports_single _).congr fun path kind => ?_
      simp [hsome, hadmits, FieldPath.root]

/-- The elements that are reported as duplicates are those with an equal one before them. -/
theorem exists_mem_laterDuplicates {items : List Value} {index : Nat} :
    (∃ item first, (item, index, first) ∈ laterDuplicates items) ↔
      ∃ position < index, Value.EqualAt items position index := by
  rw [exists_comm]
  exact (exists_congr fun _ => exists_mem_laterDuplicates_iff).trans Value.exists_repeatsAt_iff

theorem found_ofList (vs : List Violation) : (Outcome.ofList vs).found = .ok vs := by
  cases vs <;> rfl

/-- The elements of a list that equal an earlier one are reported. -/
theorem reports_distinct (field : String) (value : Value) :
    (distinctOutcome .collect field value).Reports fun path kind => kind = .distinct ∧
      ∃ items first index earlier item, value = .list items ∧ items[first]? = some earlier ∧
        items[index]? = some item ∧ first < index ∧ earlier.duplicates item = true ∧
        path = [.index index] := by
  cases value with
  | list items =>
    rw [distinctOutcome_collect]
    refine ⟨_, found_ofList _, fun path kind => ?_⟩
    constructor
    · rintro ⟨_, hmem, rfl, rfl⟩
      obtain ⟨⟨item, index, first⟩, hlater, rfl⟩ := List.mem_map.mp hmem
      obtain ⟨position, hlt, earlier, item, hearlier, hitem, hdup⟩ :=
        exists_mem_laterDuplicates.mp ⟨item, first, hlater⟩
      exact ⟨rfl, items, position, index, earlier, item, rfl, hearlier, hitem, hlt, hdup, rfl⟩
    · rintro ⟨rfl, _, position, index, earlier, item, heq, hearlier, hitem, hlt, hdup, rfl⟩
      obtain rfl := Value.list.inj heq
      obtain ⟨item, first, hlater⟩ :=
        exists_mem_laterDuplicates.mpr ⟨position, hlt, earlier, item, hearlier, hitem, hdup⟩
      exact ⟨_, List.mem_map_of_mem hlater, rfl, rfl⟩
  | _ => exact reports_pass (by simp)

/-- The nested messages that a check descends into are those of its field. -/
theorem mem_nestedMessages {field : Field} {message inner : Message} {steps : FieldPath} :
    (steps, inner) ∈ nestedMessages field message ↔
      field.Nests message (.field field.name :: steps) inner := by
  unfold nestedMessages
  constructor
  · intro hmem
    split at hmem
    case h_1 hshape =>
      split at hmem
      case h_1 typeName fields hstored =>
        obtain ⟨rfl, rfl⟩ := Prod.mk.inj (List.mem_singleton.mp hmem)
        exact .single hshape hstored
      case h_2 => cases hmem
    case h_2 hshape =>
      split at hmem
      case h_1 items hlist =>
        obtain ⟨⟨item, index⟩, hitem, hnested⟩ := List.mem_filterMap.mp hmem
        obtain ⟨nested, hmessage, heq⟩ := Option.map_eq_some_iff.mp hnested
        obtain ⟨rfl, rfl⟩ := Prod.mk.inj heq
        rw [List.mem_zipIdx_iff_getElem?, Value.asMessage?_eq_some_iff.mp hmessage] at hitem
        exact .element hshape hlist hitem
      case h_2 => cases hmem
    case h_3 type hshape =>
      split at hmem
      case h_1 entries hmap =>
        obtain ⟨⟨key, value⟩, hentry, hnested⟩ := List.mem_filterMap.mp hmem
        obtain ⟨nested, hmessage, heq⟩ := Option.map_eq_some_iff.mp hnested
        obtain ⟨rfl, rfl⟩ := Prod.mk.inj heq
        rw [List.mem_mergeSort, Value.asMessage?_eq_some_iff.mp hmessage] at hentry
        exact .entry hshape hmap hentry
      case h_2 => cases hmem
  · intro hnests
    cases hnests with
    | single hshape hstored => simp [hshape, hstored]
    | element hshape hlist hitem =>
      simp only [hshape, hlist]
      exact List.mem_filterMap.mpr ⟨(_, _), List.mem_zipIdx_iff_getElem?.mpr hitem, rfl⟩
    | entry hshape hmap hentry =>
      simp only [hshape, hmap]
      exact List.mem_filterMap.mpr ⟨(_, _), List.mem_mergeSort.mpr hentry, rfl⟩

end Check

end MessageConstraints
