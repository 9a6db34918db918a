import Mathlib.Data.List.Induction
import Mathlib.Tactic.Common
import MessageConstraints.Constraint.RuleSet
import MessageConstraints.Proofs.ConstraintSets
import MessageConstraints.Proofs.Tables

/-!
# Rule sets

A rule set is seen through the rule that it has for an element of a message and a kind
(`RuleSet.rule?`).  Attaching a rule changes what is seen there and nothing else
(`RuleSet.rule?_attach`), and in a merged set one sees the rules of the second set, and where it has
none, those of the first (`RuleSet.rule?_extend`), in whatever order the second lists its names.

Merging goes through tables of tables, on each level in the same way.  So a rule can be attached to
the second set before merging or to the merged set afterwards (`RuleSet.extend_attach`), and merging
sets that are made by attaching rules comes to attaching the rules of both
(`RuleSet.MadeOf.eq_ofList`).
-/

namespace MessageConstraints

/-! ## Rules for one message -/

namespace MessageRules

variable {rules other : MessageRules} {target : RuleTarget} {c : Constraint}

/-- The constraints that the rules have for an element. -/
def at? (rules : MessageRules) : RuleTarget → Option ConstraintSet
  | .message => some rules.message
  | .field name => rules.fields.find? name
  | .oneof name => rules.oneofs.find? name

/-- Attaches a constraint to an element. -/
def attachTo (rules : MessageRules) (target : RuleTarget) (c : Constraint) : MessageRules :=
  match target with
  | .message => { rules with message := rules.message.insert c }
  | .field name => { rules with fields := attach rules.fields name [c] }
  | .oneof name => { rules with oneofs := attach rules.oneofs name [c] }

/-- No field and no oneof is named twice. -/
structure Distinct (rules : MessageRules) : Prop where
  fields : rules.fields.names.Nodup
  oneofs : rules.oneofs.names.Nodup

theorem distinct_empty : empty.Distinct := ⟨List.nodup_nil, List.nodup_nil⟩

theorem Distinct.attachTo (h : rules.Distinct) : (rules.attachTo target c).Distinct := by
  cases target with
  | message => exact ⟨h.fields, h.oneofs⟩
  | field name => exact ⟨NameMap.nodup_names_insert h.fields _ _, h.oneofs⟩
  | oneof name => exact ⟨h.fields, NameMap.nodup_names_insert h.oneofs _ _⟩

/-- A constraint is attached to a named element by changing what the table has for the name. -/
theorem attach_eq (table : NameMap ConstraintSet) (name : String) (c : Constraint) :
    attach table name [c] = table.modify .empty name fun set => set.insert c := rfl

/-- Attaching the constraints of a table of named elements is merging with it. -/
theorem attachAll_eq (table other : NameMap ConstraintSet) :
    attachAll table other =
      table.mergeWith .empty (fun set added => set.insertAll added.toList) other := rfl

/-- Attaching a constraint adds it to those of its element. -/
theorem at?_attachTo (key : RuleTarget) :
    (rules.attachTo target c).at? key =
      if target = key then some (((rules.at? target).getD .empty).insert c)
      else rules.at? key := by
  cases target <;> cases key <;> simp [attachTo, at?, attach_eq, NameMap.find?_modify]

/-- Merged rules have for an element the constraints of both. -/
theorem at?_extend (hother : other.Distinct) (target : RuleTarget) :
    (rules.extend other).at? target = (other.at? target).elim (rules.at? target) fun added =>
      some (((rules.at? target).getD .empty).insertAll added.toList) := by
  cases target with
  | message => rfl
  | field name =>
    show (attachAll rules.fields other.fields).find? name = _
    rw [attachAll_eq, NameMap.find?_mergeWith hother.fields]
    rfl
  | oneof name =>
    show (attachAll rules.oneofs other.oneofs).find? name = _
    rw [attachAll_eq, NameMap.find?_mergeWith hother.oneofs]
    rfl

@[simp] theorem extend_empty (rules : MessageRules) : rules.extend empty = rules := rfl

/-- A constraint can be attached before or after merging. -/
theorem extend_attachTo (hother : other.Distinct) :
    rules.extend (other.attachTo target c) = (rules.extend other).attachTo target c := by
  have hattach : ∀ table added : NameMap ConstraintSet, added.names.Nodup → ∀ name,
      attachAll table (attach added name [c]) = attach (attachAll table added) name [c] := by
    intro table added hnodup name
    rw [attach_eq, attach_eq, attachAll_eq, attachAll_eq]
    exact NameMap.mergeWith_modify hnodup ConstraintSet.insertAll_empty
      fun set added _ => ConstraintSet.insertAll_insert set added c
  cases target with
  | message => simp [attachTo, extend, ConstraintSet.insertAll_insert]
  | field name => simp [attachTo, extend, hattach _ _ hother.fields]
  | oneof name => simp [attachTo, extend, hattach _ _ hother.oneofs]

end MessageRules

/-! ## Rules for all messages -/

/-- A rule is one of a kind for an element of a message. -/
def Rule.IsFor (rule : Rule) (message : String) (target : RuleTarget) (kind : ConstraintKind) :
    Prop :=
  rule.message = message ∧ rule.target = target ∧ rule.constraint.kind = kind

instance (message : String) (target : RuleTarget) (kind : ConstraintKind) :
    DecidablePred fun rule : Rule => rule.IsFor message target kind := fun _ =>
  inferInstanceAs (Decidable (_ ∧ _))

namespace RuleSet

variable {rules other : RuleSet} {message : String} {target : RuleTarget} {kind : ConstraintKind}

/-- The constraints that the rules have for an element of a message. -/
def at? (rules : RuleSet) (message : String) (target : RuleTarget) : Option ConstraintSet :=
  (rules.forMessage? message).bind fun entry => entry.at? target

/-- The rule of a kind for an element of a message. -/
def rule? (rules : RuleSet) (message : String) (target : RuleTarget) (kind : ConstraintKind) :
    Option Constraint :=
  (rules.at? message target).bind fun set => set.get? kind

/-- No message, and in no message a field or oneof, is named twice. -/
structure Distinct (rules : RuleSet) : Prop where
  messages : rules.messages.names.Nodup
  entries : ∀ name entry, (name, entry) ∈ rules.messages.entries → entry.Distinct

theorem distinct_empty : empty.Distinct :=
  ⟨List.nodup_nil, fun _ _ hmem => absurd hmem List.not_mem_nil⟩

/-- A rule is attached by changing what the set has for the message. -/
theorem messages_attach (rules : RuleSet) (rule : Rule) :
    (rules.attach rule).messages = rules.messages.modify .empty rule.message fun entry =>
      entry.attachTo rule.target rule.constraint := by
  obtain ⟨message, target, constraint⟩ := rule
  cases target <;> rfl

/-- Extending a set by another one is merging them message by message. -/
theorem messages_extend (rules other : RuleSet) :
    (rules.extend other).messages =
      rules.messages.mergeWith .empty MessageRules.extend other.messages := by
  obtain ⟨⟨entries⟩⟩ := other
  show (entries.foldl _ rules).messages = entries.foldl _ rules.messages
  induction entries generalizing rules with
  | nil => rfl
  | cons entry rest ih => exact ih _

theorem Distinct.forMessage? (h : rules.Distinct) {entry : MessageRules}
    (hentry : rules.forMessage? message = some entry) : entry.Distinct :=
  h.entries message entry (NameMap.mem_entries_of_find? hentry)

/-- Attaching a rule names nothing twice. -/
theorem Distinct.attach (h : rules.Distinct) (rule : Rule) : (rules.attach rule).Distinct := by
  refine ⟨?_, fun name entry hmem => ?_⟩
  · rw [messages_attach]
    exact NameMap.nodup_names_insert h.messages _ _
  rw [messages_attach] at hmem
  rcases NameMap.mem_entries_insert hmem with heq | hold
  · obtain ⟨rfl, rfl⟩ := Prod.mk.inj heq
    refine MessageRules.Distinct.attachTo ?_
    show ((rules.forMessage? rule.message).getD .empty).Distinct
    cases hentry : rules.forMessage? rule.message with
    | none => exact MessageRules.distinct_empty
    | some entry => exact h.forMessage? hentry
  · exact h.entries name entry hold

theorem ofList_concat (rules : List Rule) (rule : Rule) :
    ofList (rules ++ [rule]) = (ofList rules).attach rule := by
  rw [ofList, List.foldl_append]
  rfl

theorem distinct_ofList (rules : List Rule) : (ofList rules).Distinct := by
  induction rules using List.reverseRecOn with
  | nil => exact distinct_empty
  | append_singleton rules rule ih => exact ofList_concat rules rule ▸ ih.attach rule

/-! ## What is attached -/

/-- That a message has no rules comes to having the empty ones. -/
theorem rule?_eq_bind (rules : RuleSet) (message : String) (target : RuleTarget)
    (kind : ConstraintKind) :
    rules.rule? message target kind =
      (((rules.forMessage? message).getD .empty).at? target).bind fun set => set.get? kind := by
  unfold rule? at?
  cases rules.forMessage? message with
  | none => cases target <;> rfl
  | some entry => rfl

/-- **Attaching a rule replaces that of its kind on its element, and no other one.** -/
theorem rule?_attach (rules : RuleSet) (rule : Rule) :
    (rules.attach rule).rule? message target kind =
      if rule.IsFor message target kind then some rule.constraint
      else rules.rule? message target kind := by
  simp only [rule?_eq_bind, forMessage?, messages_attach, NameMap.find?_modify]
  by_cases hmessage : rule.message = message
  · subst hmessage
    rw [if_pos rfl, Option.getD_some, MessageRules.at?_attachTo]
    by_cases htarget : rule.target = target
    · subst htarget
      cases (((rules.messages.find? rule.message).getD .empty).at? rule.target) <;>
        simp [Rule.IsFor]
    · simp [Rule.IsFor, htarget]
  · simp [Rule.IsFor, hmessage]

/-- **Of the rules that are attached for a kind on an element, the last one wins.** -/
theorem rule?_ofList (rules : List Rule) :
    (ofList rules).rule? message target kind =
      ((rules.filter fun rule => rule.IsFor message target kind).getLast?).map Rule.constraint := by
  induction rules using List.reverseRecOn with
  | nil => rfl
  | append_singleton rules rule ih =>
    rw [ofList_concat, rule?_attach, ih, List.filter_append]
    by_cases hfor : rule.IsFor message target kind <;> simp [hfor]

/-! ## Merging -/

/-- **A merged set has the rules of the second set** and, where that has none, those of the
first. -/
theorem rule?_extend (hother : other.Distinct) :
    (rules.extend other).rule? message target kind =
      (other.rule? message target kind).or (rules.rule? message target kind) := by
  simp only [rule?_eq_bind, forMessage?, messages_extend,
    NameMap.find?_mergeWith hother.messages]
  cases hentry : other.messages.find? message with
  | none => cases target <;> rfl
  | some entry =>
    have hdistinct : entry.Distinct := hother.forMessage? hentry
    simp only [Option.elim_some, Option.getD_some, MessageRules.at?_extend hdistinct]
    cases entry.at? target with
    | none => rfl
    | some added =>
      cases ((rules.messages.find? message).getD .empty).at? target <;>
        simp [ConstraintSet.get?_insertAll_toList]

/-- **A rule can be attached before or after merging.** -/
theorem extend_attach (hother : other.Distinct) (rule : Rule) :
    rules.extend (other.attach rule) = (rules.extend other).attach rule := by
  suffices hmessages : (rules.extend (other.attach rule)).messages =
      ((rules.extend other).attach rule).messages from congrArg mk hmessages
  rw [messages_extend, messages_attach, messages_attach, messages_extend]
  refine NameMap.mergeWith_modify hother.messages MessageRules.extend_empty ?_
  rintro entry entry' (rfl | ⟨name, hmem⟩)
  · exact MessageRules.extend_attachTo MessageRules.distinct_empty
  · exact MessageRules.extend_attachTo (hother.entries name entry' hmem)

/-- Extending by attached rules attaches them one after the other. -/
theorem extend_ofList (rules : RuleSet) (added : List Rule) :
    rules.extend (ofList added) = added.foldl attach rules := by
  induction added using List.reverseRecOn with
  | nil => rfl
  | append_singleton added rule ih =>
    rw [ofList_concat, extend_attach (distinct_ofList added), ih, List.foldl_append]
    rfl

theorem extend_ofList_ofList (first second : List Rule) :
    (ofList first).extend (ofList second) = ofList (first ++ second) := by
  rw [extend_ofList, ofList, ofList, List.foldl_append]

/-- How a rule set is made, with the rules that were attached to it in order: they are attached one
by one, or come from a set that it is extended by. -/
inductive MadeOf : List Rule → RuleSet → Prop
  | empty : MadeOf [] .empty
  | attach {attached : List Rule} {rules : RuleSet} (rule : Rule) :
      MadeOf attached rules → MadeOf (attached ++ [rule]) (rules.attach rule)
  | extend {first second : List Rule} {rules other : RuleSet} :
      MadeOf first rules → MadeOf second other → MadeOf (first ++ second) (rules.extend other)

/-- **However a rule set is made, it is as if its rules were attached one by one.** -/
theorem MadeOf.eq_ofList {attached : List Rule} (h : MadeOf attached rules) :
    rules = ofList attached := by
  induction h with
  | empty => rfl
  | attach rule _ ih => rw [ih, ofList_concat]
  | extend _ _ ihfirst ihsecond => rw [ihfirst, ihsecond, extend_ofList_ofList]

theorem isEmpty_ofList {attached : List Rule} :
    (ofList attached).isEmpty = true ↔ attached = [] := by
  constructor
  · intro hempty
    cases attached using List.reverseRecOn with
    | nil => rfl
    | append_singleton attached rule =>
      have hmem : rule.message ∈ (ofList (attached ++ [rule])).messages.names := by
        rw [ofList_concat, messages_attach]
        exact NameMap.mem_names_modify.mpr (Or.inl rfl)
      have hnil : (ofList (attached ++ [rule])).messages.entries = [] :=
        List.isEmpty_iff.mp hempty
      rw [NameMap.names, hnil] at hmem
      cases hmem
  · rintro rfl
    rfl

/-- Extending rule sets is associative, the empty set on either side changes nothing, and only those
are empty that no rule was attached to. -/
theorem MadeOf.extend_laws (attached attached' attached'' : List Rule)
    (rules rules' rules'' : RuleSet) (hrules : rules.MadeOf attached)
    (hrules' : rules'.MadeOf attached') (hrules'' : rules''.MadeOf attached'') :
    (rules.extend rules').extend rules'' = rules.extend (rules'.extend rules'') ∧
      rules.extend .empty = rules ∧ RuleSet.empty.extend rules = rules ∧
      (rules.isEmpty = true ↔ attached = []) := by
  have hassoc := (RuleSet.MadeOf.extend (.extend hrules hrules') hrules'').eq_ofList
  have hassoc' := (RuleSet.MadeOf.extend hrules (.extend hrules' hrules'')).eq_ofList
  have hempty := (RuleSet.MadeOf.extend .empty hrules).eq_ofList
  refine ⟨?_, rfl, hempty.trans hrules.eq_ofList.symm, ?_⟩
  · rw [hassoc, hassoc', List.append_assoc]
  · rw [hrules.eq_ofList, RuleSet.isEmpty_ofList]

end RuleSet

end MessageConstraints
