import Mathlib.Tactic.Common
import MessageConstraints.Proofs.Compilation
import MessageConstraints.Schema.Options

/-!
# What the values of options declare

An option says what it declares in a bare value, a truth value or a text, or in a message, where it
stands in the principal field of the kind.  What such a value declares is laid down once, kind by
kind (`Constraint.Plain`), and what a message says beside it completes the constraint
(`Constraint.completed`).  A few kinds do without the principal field of a message.

This is all: a value declares a constraint in one of these ways, or it is refused
(`OptionValue.constraint_eq_ok_iff`).
-/

namespace MessageConstraints

variable {kind : ConstraintKind} {option : OptionValue} {value : Value}
  {constraint plain : Constraint} {payload : Message} {name text : String} {on : Bool}

/-! ## The rule -/

namespace ConstraintKind

/-- The field of a message in which an option says what its short form would say. -/
def principal : ConstraintKind → String
  | required => "required"
  | pattern => "regex"
  | min => "value"
  | max => "value"
  | range => "range"
  | distinct => "distinct"
  | dependency => "with"
  | recurse => "recurse"
  | choice => "required"
  | combination => "fields"

/-- What a message without the principal field declares, for the kinds that do without it. -/
def blank? : ConstraintKind → Option Constraint
  | min => some (.min ⟨"", false, none⟩)
  | max => some (.max ⟨"", false, none⟩)
  | dependency => some (.dependency ⟨"", none⟩)
  | choice => some (.choice ⟨false, none⟩)
  | _ => none

end ConstraintKind

namespace Constraint

/-- **Short forms.**  What a bare value declares: a truth value if the kind is a switch, for all
other kinds a text that is not empty. -/
inductive Plain : ConstraintKind → Value → Constraint → Prop
  | required (on : Bool) : Plain .required (.bool on) (.required on)
  | distinct (on : Bool) : Plain .distinct (.bool on) (.distinct on)
  | recurse (on : Bool) : Plain .recurse (.bool on) (.recurse on)
  | choice (on : Bool) : Plain .choice (.bool on) (.choice ⟨on, none⟩)
  | range {text : String} (hne : text ≠ "") : Plain .range (.string text) (.range text)
  | combination {text : String} (hne : text ≠ "") :
      Plain .combination (.string text) (.combination text)
  | pattern {text : String} (hne : text ≠ "") :
      Plain .pattern (.string text) (.pattern ⟨text, "", none⟩)
  | min {text : String} (hne : text ≠ "") : Plain .min (.string text) (.min ⟨text, false, none⟩)
  | max {text : String} (hne : text ≠ "") : Plain .max (.string text) (.max ⟨text, false, none⟩)
  | dependency {text : String} (hne : text ≠ "") :
      Plain .dependency (.string text) (.dependency ⟨text, none⟩)

/-- A constraint with what an option says beside the principal field. -/
def completed (option : OptionValue) : Constraint → Constraint
  | .pattern rule =>
    .pattern ⟨rule.regex, (option.textField? "flags").getD "", option.textField? "message"⟩
  | .min rule =>
    .min ⟨rule.value, (option.boolField? "exclusive").getD false, option.textField? "message"⟩
  | .max rule =>
    .max ⟨rule.value, (option.boolField? "exclusive").getD false, option.textField? "message"⟩
  | .dependency rule => .dependency ⟨rule.partner, option.textField? "message"⟩
  | .choice rule => .choice ⟨rule.required, option.textField? "message"⟩
  | constraint => constraint

end Constraint

namespace OptionValue

/-- An option says a value: it is this value, or a message with it in the named field. -/
def Says (option : OptionValue) (name : String) (value : Value) : Prop :=
  option.value = value ∨ option.field? name = some value

/-- An option says no value that declares a constraint of a kind. -/
def Unsaid (option : OptionValue) (kind : ConstraintKind) : Prop :=
  ∀ value plain, option.Says kind.principal value → ¬ Constraint.Plain kind value plain

/-- **What options declare.**  An option declares a constraint of a kind: it says a value that
declares it, or it is a message that may do without. -/
inductive Declares (option : OptionValue) (kind : ConstraintKind) (constraint : Constraint) : Prop
  | said {value : Value} {plain : Constraint} (hvalue : option.Says kind.principal value)
      (hplain : Constraint.Plain kind value plain)
      (hconstraint : plain.completed option = constraint)
  | lacking {payload : Message} {blank : Constraint} (hpayload : option.payload? = some payload)
      (hunsaid : option.Unsaid kind) (hblank : kind.blank? = some blank)
      (hconstraint : blank.completed option = constraint)

/-! ## Fields of messages -/

theorem field?_of_payload?_eq_none (h : option.payload? = none) (name : String) :
    option.field? name = none := by
  simp [field?, h]

theorem textField?_eq_some_iff :
    option.textField? name = some text ↔ text ≠ "" ∧ option.field? name = some (.string text) := by
  unfold textField?
  split
  case h_1 held hfield =>
    simp only [String.isEmpty_iff, hfield, Option.some.injEq, Value.string.injEq]
    split
    case isTrue hempty => exact ⟨nofun, fun h => absurd (h.2 ▸ hempty) h.1⟩
    case isFalse hne =>
      rw [Option.some.injEq]
      exact ⟨fun h => ⟨h ▸ hne, h⟩, And.right⟩
  case h_2 hno => exact ⟨nofun, fun h => absurd h.2 (hno text)⟩

theorem boolField?_eq_some_iff :
    option.boolField? name = some on ↔ option.field? name = some (.bool on) := by
  unfold boolField?
  split
  case h_1 held hfield => simp [hfield]
  case h_2 hno => exact ⟨nofun, fun h => absurd h (hno on)⟩

theorem textField?_of_payload?_eq_none (h : option.payload? = none) (name : String) :
    option.textField? name = none := by
  simp [textField?, field?_of_payload?_eq_none h]

theorem boolField?_of_payload?_eq_none (h : option.payload? = none) (name : String) :
    option.boolField? name = none := by
  simp [boolField?, field?_of_payload?_eq_none h]

/-! ## Switches and texts -/

theorem flag_eq_ok_iff : option.flag name = .ok on ↔ option.Says name (.bool on) := by
  rw [Says, ← boolField?_eq_some_iff]
  obtain ⟨value, type⟩ := option
  cases value with
  | message typeName fields =>
    simp only [flag]
    split <;> simp_all
  | _ => simp [flag, boolField?, field?, payload?, Value.asMessage?]

theorem text_eq_ok_iff :
    option.text name = .ok text ↔ text ≠ "" ∧ option.Says name (.string text) := by
  rw [Says, and_or_left, ← textField?_eq_some_iff]
  obtain ⟨value, type⟩ := option
  cases value with
  | string held =>
    rw [textField?_of_payload?_eq_none rfl]
    simp only [OptionValue.text, String.isEmpty_iff, Value.string.injEq, reduceCtorEq, or_false]
    split
    case isTrue hempty => exact ⟨nofun, fun h => absurd (h.2 ▸ hempty) h.1⟩
    case isFalse hne =>
      rw [Except.ok.injEq]
      exact ⟨fun h => ⟨h ▸ hne, h⟩, And.right⟩
  | message typeName fields =>
    simp only [OptionValue.text]
    split <;> simp_all
  | _ => simp [OptionValue.text, textField?, field?, payload?, Value.asMessage?]

theorem text_ne_ok (h : ∀ text, text ≠ "" → ¬ option.Says name (.string text)) (text : String) :
    option.text name ≠ .ok text := fun hok =>
  have hsaid := text_eq_ok_iff.mp hok
  h text hsaid.1 hsaid.2

theorem flag_ne_ok (h : ∀ on, ¬ option.Says name (.bool on)) (on : Bool) :
    option.flag name ≠ .ok on := fun hok =>
  h on (flag_eq_ok_iff.mp hok)

/-- In a message, the texts that can be read are those in its fields. -/
theorem text_toOption (h : option.payload?.isSome = true) (name : String) :
    (option.text name).toOption = option.textField? name := by
  obtain ⟨value, type⟩ := option
  cases value with
  | message typeName fields =>
    unfold OptionValue.text
    cases hheld : textField? ⟨.message typeName fields, type⟩ name <;> rfl
  | _ => cases h

/-- In a message, the truth values that can be read are those in its fields. -/
theorem flag_toOption (h : option.payload?.isSome = true) (name : String) :
    (option.flag name).toOption = option.boolField? name := by
  obtain ⟨value, type⟩ := option
  cases value with
  | message typeName fields =>
    unfold OptionValue.flag
    cases hheld : boolField? ⟨.message typeName fields, type⟩ name <;> rfl
  | _ => cases h

/-! ## Constraints of several parts

Where the principal field does not say anything, only a message gets through, and only if its kind
has a blank to put in place of what is missing. -/

/-- What an option says, or, if it is a message that does not say it, a blank in its place. -/
def orBlank {α : Type} (option : OptionValue) (said : Except OptionError α) (blank : α) :
    Except OptionError α :=
  match option.payload? with
  | some _ => .ok (said.toOption.getD blank)
  | none => said

section

variable {α : Type} {said : Except OptionError α} {read : α}

theorem orBlank_of_ok (h : said = .ok read) (blank : α) :
    option.orBlank said blank = .ok read := by
  subst h
  unfold orBlank
  split <;> rfl

theorem orBlank_eq_ok_iff (h : ∀ read, said ≠ .ok read) {blank : α} :
    option.orBlank said blank = .ok read ↔
      (∃ payload, option.payload? = some payload) ∧ blank = read := by
  cases said with
  | ok other => exact absurd rfl (h other)
  | error cause =>
    unfold orBlank
    cases option.payload? <;> simp [Except.toOption]

end

theorem bound_eq :
    option.bound = (option.orBlank (option.text "value") "").map fun value =>
      ⟨value, (option.boolField? "exclusive").getD false, option.textField? "message"⟩ := by
  cases hpayload : option.payload? <;>
    simp [bound, orBlank, hpayload, text_toOption, textField?_of_payload?_eq_none,
      boolField?_of_payload?_eq_none, Except.map]

theorem dependency_eq :
    option.dependency = (option.orBlank (option.text "with") "").map fun partner =>
      ⟨partner, option.textField? "message"⟩ := by
  cases hpayload : option.payload? <;>
    simp [dependency, orBlank, hpayload, text_toOption, textField?_of_payload?_eq_none, Except.map]

theorem choice_eq :
    option.choice = (option.orBlank (option.flag "required") false).map fun required =>
      ⟨required, option.textField? "message"⟩ := by
  cases hpayload : option.payload? <;>
    simp [choice, orBlank, hpayload, flag_toOption, textField?_of_payload?_eq_none, Except.map]

/-! ## Constraints of all kinds -/

/-- What is said declares a constraint, which the rest of a message completes. -/
theorem constraint_of_said (hvalue : option.Says kind.principal value)
    (hplain : Constraint.Plain kind value plain) :
    option.constraint kind = .ok (plain.completed option) := by
  cases hplain with
  | required => exact map_eq_ok_iff.mpr ⟨_, flag_eq_ok_iff.mpr hvalue, rfl⟩
  | distinct => exact map_eq_ok_iff.mpr ⟨_, flag_eq_ok_iff.mpr hvalue, rfl⟩
  | recurse => exact map_eq_ok_iff.mpr ⟨_, flag_eq_ok_iff.mpr hvalue, rfl⟩
  | range hne => exact map_eq_ok_iff.mpr ⟨_, text_eq_ok_iff.mpr ⟨hne, hvalue⟩, rfl⟩
  | combination hne => exact map_eq_ok_iff.mpr ⟨_, text_eq_ok_iff.mpr ⟨hne, hvalue⟩, rfl⟩
  | pattern hne =>
    have htext : option.text "regex" = .ok _ := text_eq_ok_iff.mpr ⟨hne, hvalue⟩
    rw [OptionValue.constraint, pattern, htext]
    rfl
  | min hne | max hne =>
    have htext : option.text "value" = .ok _ := text_eq_ok_iff.mpr ⟨hne, hvalue⟩
    rw [OptionValue.constraint, bound_eq, orBlank_of_ok htext]
    rfl
  | dependency hne =>
    have htext : option.text "with" = .ok _ := text_eq_ok_iff.mpr ⟨hne, hvalue⟩
    rw [OptionValue.constraint, dependency_eq, orBlank_of_ok htext]
    rfl
  | choice =>
    have hflag : option.flag "required" = .ok _ := flag_eq_ok_iff.mpr hvalue
    rw [OptionValue.constraint, choice_eq, orBlank_of_ok hflag]
    rfl

/-- If nothing is said, the constraint is the one that a message can do without saying it. -/
theorem constraint_of_unsaid (hunsaid : option.Unsaid kind) :
    option.constraint kind = .ok constraint ↔
      ∃ payload blank, option.payload? = some payload ∧ kind.blank? = some blank ∧
        blank.completed option = constraint := by
  -- Six kinds have no blank, and reading them fails; the other four come to their blank.
  cases kind with
  | required | distinct | recurse =>
    refine iff_of_false (fun hok => ?_) (by simp [ConstraintKind.blank?])
    obtain ⟨on, hon, -⟩ := map_eq_ok_iff.mp hok
    exact flag_ne_ok (fun _ hheld => hunsaid _ _ hheld (by constructor)) on hon
  | range | combination =>
    refine iff_of_false (fun hok => ?_) (by simp [ConstraintKind.blank?])
    obtain ⟨text, htext, -⟩ := map_eq_ok_iff.mp hok
    exact text_ne_ok (fun _ hne hheld => hunsaid _ _ hheld (by constructor; exact hne)) text htext
  | pattern =>
    refine iff_of_false (fun hok => ?_) (by simp [ConstraintKind.blank?])
    obtain ⟨rule, hrule, -⟩ := map_eq_ok_iff.mp hok
    obtain ⟨text, htext, -⟩ := map_eq_ok_iff.mp hrule
    exact text_ne_ok (fun _ hne hheld => hunsaid _ _ hheld (.pattern hne)) text htext
  | min | max =>
    have hunread : ∀ text, option.text "value" ≠ .ok text :=
      text_ne_ok fun _ hne hheld => hunsaid _ _ hheld (by constructor; exact hne)
    simp [OptionValue.constraint, bound_eq, map_eq_ok_iff, orBlank_eq_ok_iff hunread,
      ConstraintKind.blank?, Constraint.completed]
  | dependency =>
    have hunread : ∀ text, option.text "with" ≠ .ok text :=
      text_ne_ok fun _ hne hheld => hunsaid _ _ hheld (.dependency hne)
    simp [OptionValue.constraint, dependency_eq, map_eq_ok_iff, orBlank_eq_ok_iff hunread,
      ConstraintKind.blank?, Constraint.completed]
  | choice =>
    have hunread : ∀ on, option.flag "required" ≠ .ok on :=
      flag_ne_ok fun on hheld => hunsaid _ _ hheld (.choice on)
    simp [OptionValue.constraint, choice_eq, map_eq_ok_iff, orBlank_eq_ok_iff hunread,
      ConstraintKind.blank?, Constraint.completed]

/-- **A value declares what the rule says, or it is refused.** -/
theorem constraint_eq_ok_iff :
    option.constraint kind = .ok constraint ↔ option.Declares kind constraint := by
  constructor
  · intro h
    by_cases hsaid : ∃ value plain, option.Says kind.principal value ∧
        Constraint.Plain kind value plain
    · obtain ⟨value, plain, hvalue, hplain⟩ := hsaid
      exact .said hvalue hplain (Except.ok.inj ((constraint_of_said hvalue hplain).symm.trans h))
    · have hunsaid : option.Unsaid kind := fun value plain hvalue hplain =>
        hsaid ⟨value, plain, hvalue, hplain⟩
      obtain ⟨payload, blank, hpayload, hblank, hconstraint⟩ := (constraint_of_unsaid hunsaid).mp h
      exact .lacking hpayload hunsaid hblank hconstraint
  · rintro (⟨hvalue, hplain, rfl⟩ | ⟨hpayload, hunsaid, hblank, hconstraint⟩)
    · exact constraint_of_said hvalue hplain
    · exact (constraint_of_unsaid hunsaid).mpr ⟨_, _, hpayload, hblank, hconstraint⟩

/-! ## Short forms and messages -/

/-- Where nothing is said beside it, a constraint stays as it is. -/
theorem completed_eq_self (hplain : Constraint.Plain kind value plain)
    (hbeside : ∀ name, name ≠ kind.principal →
      option.textField? name = none ∧ (option.boolField? name).getD false = false) :
    plain.completed option = plain := by
  cases hplain with
  | required | distinct | recurse | range | combination => rfl
  | pattern =>
    simp [Constraint.completed, (hbeside "flags" (by decide)).1, (hbeside "message" (by decide)).1]
  | min | max =>
    simp [Constraint.completed, (hbeside "exclusive" (by decide)).2,
      (hbeside "message" (by decide)).1]
  | dependency | choice => simp [Constraint.completed, (hbeside "message" (by decide)).1]

/-- An option in its short form declares what the bare value does. -/
theorem constraint_of_plain (hplain : Constraint.Plain kind value plain) (pool : Pool) :
    (ofPool pool value).constraint kind = .ok plain := by
  have hpayload : (ofPool pool value).payload? = none := by cases hplain <;> rfl
  rw [constraint_of_said (.inl rfl) hplain, completed_eq_self hplain fun name _ =>
    ⟨textField?_of_payload?_eq_none hpayload name,
      by rw [boolField?_of_payload?_eq_none hpayload, Option.getD_none]⟩]

end OptionValue

/-- Without a declared default, an unset field reads neither as true nor as a text with something
in it. -/
theorem Field.default_of_undeclared {field : Field} (h : field.declaredDefault = none) :
    field.default ≠ .bool true ∧ ∀ text, field.default = .string text → text = "" := by
  unfold Field.default
  cases field.shape with
  | list | map => simp
  | singular =>
    rw [h, Option.getD_none]
    cases field.type with
    | enum | message => simp [FieldType.zero]
    | scalar type => cases type <;> simp [FieldType.zero, ScalarType.zero, eq_comm]

/-- In a message of a type one field holds a value.  Nothing is stored in the others, nor do they
have declared defaults. -/
structure Message.HoldsOnly (message : Message) (type : MessageType) (name : String)
    (value : Value) : Prop where
  held : ∃ field, type.field? name = some field ∧ message.stored? field.number = some value
  others : ∀ field ∈ type.fields, field.name ≠ name →
    message.stored? field.number = none ∧ field.declaredDefault = none

namespace OptionValue

variable {pool : Pool} {type : MessageType}

theorem field?_ofPool (htype : pool.find? payload.typeName = some type) (name : String) :
    (ofPool pool payload.toValue).field? name = (type.field? name).map payload.get := by
  simp [field?, payload?, ofPool, Message.toValue, Value.asMessage?, htype, Option.map_eq_bind]

/-- The fields beside the one that holds a value say nothing. -/
theorem silent_beside (htype : pool.find? payload.typeName = some type)
    (h : payload.HoldsOnly type kind.principal value) (hname : name ≠ kind.principal) :
    (ofPool pool payload.toValue).textField? name = none ∧
      ((ofPool pool payload.toValue).boolField? name).getD false = false := by
  have hread : ∀ held, (ofPool pool payload.toValue).field? name = some held →
      held ≠ .bool true ∧ ∀ text, held = .string text → text = "" := by
    intro held hheld
    rw [field?_ofPool htype, Option.map_eq_some_iff] at hheld
    obtain ⟨field, hfield, rfl⟩ := hheld
    obtain rfl : field.name = name := by simpa using List.find?_some hfield
    obtain ⟨hstored, hdefault⟩ := h.others field (List.mem_of_find?_eq_some hfield) hname
    rw [Message.get, hstored, Option.getD_none]
    exact Field.default_of_undeclared hdefault
  constructor
  · refine Option.eq_none_iff_forall_ne_some.mpr fun text htext => ?_
    obtain ⟨hne, hheld⟩ := textField?_eq_some_iff.mp htext
    exact hne ((hread _ hheld).2 text rfl)
  · cases hon : (ofPool pool payload.toValue).boolField? name with
    | none => rfl
    | some on =>
      cases on with
      | false => rfl
      | true => exact absurd rfl (hread _ (boolField?_eq_some_iff.mp hon)).1

/-- **A message with nothing but the principal field declares what the bare value does.** -/
theorem constraint_of_holdsOnly (hplain : Constraint.Plain kind value plain)
    (htype : pool.find? payload.typeName = some type)
    (h : payload.HoldsOnly type kind.principal value) :
    (ofPool pool payload.toValue).constraint kind = .ok plain := by
  obtain ⟨field, hfield, hstored⟩ := h.held
  have hheld : (ofPool pool payload.toValue).Says kind.principal value :=
    .inr (by rw [field?_ofPool htype, hfield, Option.map_some, Message.get, hstored]; rfl)
  rw [constraint_of_said hheld hplain,
    completed_eq_self hplain fun _ hname => silent_beside htype h hname]

end OptionValue

end MessageConstraints
