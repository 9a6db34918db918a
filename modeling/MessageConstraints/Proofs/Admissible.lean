import Mathlib.Tactic.Common
import MessageConstraints.Proofs.Compilation
import MessageConstraints.Proofs.RangeText

/-!
# Admissible constraints

Which constraints can be compiled where they are attached, and with which error the others are
refused, told without compiling anything: by the shape and the type of the field, by the names of
the fields beside it, and by what the texts of the constraint say (`Site.Admissible`,
`Site.Refused`).  Compiling a constraint decides just this (`Site.decides_compile`).
-/

namespace MessageConstraints

/-! ## Patterns -/

namespace PatternRule

/-- The letters that modify a pattern. -/
def modifiers : List Char := ['i', 'm', 's', 'u', 'x']

theorem mem_modifiers {c : Char} :
    c ∈ modifiers ↔ c = 'i' ∨ c = 'm' ∨ c = 's' ∨ c = 'u' ∨ c = 'x' := by
  simp [modifiers]

/-- The mode that the modifiers of a rule ask for; Unicode is on in any case. -/
def mode (rule : PatternRule) : Pattern.Mode :=
  { Pattern.Mode.default with
    caseInsensitive := rule.flags.toList.elem 'i'
    multiLine := rule.flags.toList.elem 'm'
    dotMatchesNewline := rule.flags.toList.elem 's'
    ignoreBlanks := rule.flags.toList.elem 'x' }

end PatternRule

namespace Pattern

variable {flags : List Char}

/-- Modifiers turn on what they stand for, in any order and number. -/
theorem modeOf_of_modifiers (mode : Mode) (h : ∀ c ∈ flags, c ∈ PatternRule.modifiers) :
    modeOf mode flags = .ok { mode with
      caseInsensitive := mode.caseInsensitive || flags.elem 'i'
      multiLine := mode.multiLine || flags.elem 'm'
      dotMatchesNewline := mode.dotMatchesNewline || flags.elem 's'
      unicode := mode.unicode || flags.elem 'u'
      ignoreBlanks := mode.ignoreBlanks || flags.elem 'x' } := by
  induction flags generalizing mode with
  | nil => simp [modeOf]
  | cons c rest ih =>
    have hrest : ∀ d ∈ rest, d ∈ PatternRule.modifiers := fun d hd =>
      h d (List.mem_cons_of_mem _ hd)
    rcases PatternRule.mem_modifiers.mp (h c List.mem_cons_self) with
      rfl | rfl | rfl | rfl | rfl <;> simp [modeOf, ih _ hrest]

/-- The first letter that is no modifier is reported. -/
theorem modeOf_eq_error (mode : Mode) {before after : List Char} {c : Char}
    (hbefore : ∀ d ∈ before, d ∈ PatternRule.modifiers) (hc : c ∉ PatternRule.modifiers) :
    modeOf mode (before ++ c :: after) = .error c := by
  induction before generalizing mode with
  | nil =>
    rw [PatternRule.mem_modifiers, not_or, not_or, not_or, not_or] at hc
    simp [modeOf, hc]
  | cons d rest ih =>
    have hrest : ∀ e ∈ rest, e ∈ PatternRule.modifiers := fun e he =>
      hbefore e (List.mem_cons_of_mem _ he)
    rcases PatternRule.mem_modifiers.mp (hbefore d List.mem_cons_self) with
      rfl | rfl | rfl | rfl | rfl <;> exact ih _ hrest

end Pattern

/-- Where all letters are modifiers, they ask for the mode of the rule. -/
theorem PatternRule.modeOf_eq (rule : PatternRule)
    (h : ∀ c ∈ rule.flags.toList, c ∈ modifiers) :
    Pattern.modeOf .default rule.flags.toList = .ok rule.mode := by
  rw [Pattern.modeOf_of_modifiers _ h]
  simp [mode, Pattern.Mode.default]

/-! ## Constraints on fields -/

namespace Field

/-- A field holds single values or lists of them, and no map. -/
def IsPlain (field : Field) : Prop :=
  field.shape = .singular ∨ field.shape = .list

/-- The values of a field are texts. -/
def HoldsTexts (field : Field) : Prop :=
  field.IsPlain ∧ field.type = .scalar .string

/-- The values of a field are numbers of a family. -/
def HoldsNumbers (field : Field) (family : NumberFamily) : Prop :=
  field.IsPlain ∧ ∃ type, field.type = .scalar type ∧
    match family with
    | .signed => type.family = .signed
    | .unsigned => type.family = .unsigned
    | .single => type = .float
    | .double => type = .double

end Field

namespace FieldSchema

variable {schema : FieldSchema} {owner : MessageSchema}

theorem isValueField_iff {type : ScalarType} (htype : schema.field.type = .scalar type) :
    schema.isValueField = true ↔ schema.field.IsPlain := by
  unfold isValueField kind Field.IsPlain
  cases schema.field.shape <;> simp [htype]

theorem kind_eq_list_iff : schema.kind = .list ↔ schema.field.shape = .list := by
  unfold kind
  cases schema.field.shape <;> cases schema.field.type <;> simp

theorem messageType?_eq_some_iff {name : String} :
    schema.messageType? = some name ↔ schema.field.type = .message name := by
  unfold messageType? Field.nested?
  cases schema.field.type <;> simp

theorem holdsTexts_iff :
    schema.isValueField = true ∧ schema.scalar? = some .string ↔ schema.field.HoldsTexts := by
  unfold Field.HoldsTexts scalar? element
  cases htype : schema.field.type with
  | scalar type => cases type <;> simp [isValueField_iff htype, ScalarType.family]
  | enum type => simp
  | message name => simp

theorem numberFamily?_eq_some_iff {family : NumberFamily} :
    schema.numberFamily? = some family ↔ schema.field.HoldsNumbers family := by
  unfold numberFamily? Field.HoldsNumbers
  cases htype : schema.field.type with
  | scalar type =>
    rw [← isValueField_iff htype]
    cases schema.isValueField with
    | false => simp
    | true => cases type <;> cases family <;> simp [ScalarType.family]
  | enum type => simp
  | message name => simp

theorem numberFamily?_eq_none_iff :
    schema.numberFamily? = none ↔ ∀ family, ¬ schema.field.HoldsNumbers family := by
  simp only [Option.eq_none_iff_forall_ne_some, ne_eq, numberFamily?_eq_some_iff]

/-- Why a pattern is refused: the field holds no texts, or the first thing that is wrong with the
pattern. -/
inductive RefusesPattern (schema : FieldSchema) (rule : PatternRule) : CompileError → Prop
  | noTexts : ¬ schema.field.HoldsTexts →
      RefusesPattern schema rule (schema.unfit .pattern .stringField)
  | empty : schema.field.HoldsTexts → rule.regex = "" →
      RefusesPattern schema rule (.emptyPattern schema.name)
  | unknownModifier {before after : List Char} {c : Char} :
      schema.field.HoldsTexts → rule.regex ≠ "" → rule.flags.toList = before ++ c :: after →
      (∀ d ∈ before, d ∈ PatternRule.modifiers) → c ∉ PatternRule.modifiers →
      RefusesPattern schema rule (.unknownModifier c rule.flags)
  | invalid : schema.field.HoldsTexts → rule.regex ≠ "" →
      (∀ c ∈ rule.flags.toList, c ∈ PatternRule.modifiers) →
      Pattern.compile? rule.mode rule.regex = none →
      RefusesPattern schema rule (.invalidPattern rule.regex)

/-- Why a number rule is refused: the field holds no numbers, or what is wrong with the rule in the
family of its numbers. -/
def RefusesNumber (schema : FieldSchema) (kind : ConstraintKind)
    (wrong : NumberFamily → CompileError → Prop) (cause : CompileError) : Prop :=
  ((∀ family, ¬ schema.field.HoldsNumbers family) ∧ cause = schema.unfit kind .numericField) ∨
    ∃ family, schema.field.HoldsNumbers family ∧ wrong family cause

/-- What is wrong with a bound: its threshold. -/
def WrongBound (schema : FieldSchema) (rule : BoundRule) (family : NumberFamily)
    (cause : CompileError) : Prop :=
  ¬ family.IsThreshold (Text.trimChars rule.value.toList) ∧
    cause = .invalidThreshold schema.name (Text.trim rule.value)

/-- What is wrong with a range. -/
def WrongRange (schema : FieldSchema) (source : String) (family : NumberFamily)
    (cause : CompileError) : Prop :=
  ∃ malformed, family.Malformed (Text.trimChars source.toList) malformed ∧
    cause = .malformedRange schema.name source malformed

/-- A constraint on a field is admissible.  Switches that are off always are. -/
def Admits (schema : FieldSchema) (owner : MessageSchema) : Constraint → Prop
  | .required _ => True
  | .pattern rule => schema.field.HoldsTexts ∧ rule.regex ≠ "" ∧
    (∀ c ∈ rule.flags.toList, c ∈ PatternRule.modifiers) ∧
      ∃ pattern, Pattern.compile? rule.mode rule.regex = some pattern
  | .min rule | .max rule => ∃ family, schema.field.HoldsNumbers family ∧
    family.IsThreshold (Text.trimChars rule.value.toList)
  | .range source => ∃ family, schema.field.HoldsNumbers family ∧
    family.IsRange (Text.trimChars source.toList)
  | .distinct on => on = true →
    schema.field.shape = .list ∧ ∀ name, schema.field.type ≠ .message name
  | .dependency rule => ∃ partner ∈ owner.fields, partner.name = rule.partner
  | .recurse on => on = true → ∃ name, schema.field.type = .message name
  | .choice _ | .combination _ => False

/-- A constraint on a field is not admissible, for a reason. -/
def Refuses (schema : FieldSchema) (owner : MessageSchema) : Constraint → CompileError → Prop
  | .pattern rule, cause => schema.RefusesPattern rule cause
  | .min rule, cause => schema.RefusesNumber .min (schema.WrongBound rule) cause
  | .max rule, cause => schema.RefusesNumber .max (schema.WrongBound rule) cause
  | .range source, cause => schema.RefusesNumber .range (schema.WrongRange source) cause
  | .distinct on, cause =>
    on = true ∧ (schema.field.shape = .list → ∃ name, schema.field.type = .message name) ∧
      cause = schema.unfit .distinct .repeatedField
  | .dependency rule, cause => (∀ partner ∈ owner.fields, partner.name ≠ rule.partner) ∧
    cause = .unknownPartner schema.field.fullName rule.partner
  | .recurse on, cause => on = true ∧ (∀ name, schema.field.type ≠ .message name) ∧
    cause = schema.unfit .recurse .messageField
  | _, _ => False

theorem compilePattern_of_not_holdsTexts {rule : PatternRule} (h : ¬ schema.field.HoldsTexts) :
    schema.compilePattern rule = .error (schema.unfit .pattern .stringField) := by
  have hunfit : (!schema.isValueField || decide (schema.scalar? ≠ some .string)) = true := by
    rw [← holdsTexts_iff] at h
    cases hplain : schema.isValueField with
    | false => rfl
    | true => simpa [hplain] using h
  rw [compilePattern, if_pos hunfit]

theorem compilePattern_of_holdsTexts {rule : PatternRule} (h : schema.field.HoldsTexts)
    (hregex : rule.regex ≠ "") :
    schema.compilePattern rule =
      match Pattern.modeOf .default rule.flags.toList with
      | .error modifier => .error (.unknownModifier modifier rule.flags)
      | .ok mode =>
        match Pattern.compile? mode rule.regex with
        | some pattern => .ok (.pattern schema.field pattern rule.message)
        | none => .error (.invalidPattern rule.regex) := by
  obtain ⟨hplain, hscalar⟩ := holdsTexts_iff.mpr h
  have hfits : ¬ (!schema.isValueField || decide (schema.scalar? ≠ some .string)) = true := by
    simp [hplain, hscalar]
  have hsome : ¬ rule.regex.isEmpty = true := by simpa using hregex
  exact (if_neg hfits).trans (if_neg hsome)

/-- A field admits a pattern, or there is a reason why not. -/
theorem admits_or_refuses_pattern (schema : FieldSchema) (owner : MessageSchema)
    (rule : PatternRule) :
    schema.Admits owner (.pattern rule) ∨ ∃ cause, schema.RefusesPattern rule cause := by
  by_cases htexts : schema.field.HoldsTexts
  case neg => exact Or.inr ⟨_, .noTexts htexts⟩
  by_cases hregex : rule.regex = ""
  · exact Or.inr ⟨_, .empty htexts hregex⟩
  cases hodd : rule.flags.toList.find? (· ∉ PatternRule.modifiers) with
  | some c =>
    obtain ⟨hc, before, after, hflags, hbefore⟩ := List.find?_eq_some_iff_append.mp hodd
    refine Or.inr ⟨_, .unknownModifier htexts hregex hflags (fun d hd => ?_) (by simpa using hc)⟩
    simpa using hbefore d hd
  | none =>
    have hflags : ∀ c ∈ rule.flags.toList, c ∈ PatternRule.modifiers := by
      simpa using List.find?_eq_none.mp hodd
    cases hpattern : Pattern.compile? rule.mode rule.regex with
    | none => exact Or.inr ⟨_, .invalid htexts hregex hflags hpattern⟩
    | some pattern => exact Or.inl ⟨htexts, hregex, hflags, pattern, hpattern⟩

theorem decides_compilePattern (schema : FieldSchema) (owner : MessageSchema)
    (rule : PatternRule) :
    Decides (schema.compilePattern rule) (schema.Admits owner (.pattern rule))
      (schema.RefusesPattern rule) := by
  refine .of_total ?_ ?_ (schema.admits_or_refuses_pattern owner rule)
  · rintro ⟨htexts, hregex, hflags, pattern, hpattern⟩
    rw [compilePattern_of_holdsTexts htexts hregex, rule.modeOf_eq hflags]
    simp only [hpattern]
    exact ⟨_, rfl⟩
  · intro cause hcause
    cases hcause with
    | noTexts htexts => exact compilePattern_of_not_holdsTexts htexts
    | empty htexts hregex =>
      obtain ⟨hplain, hscalar⟩ := holdsTexts_iff.mpr htexts
      simp [compilePattern, hplain, hscalar, hregex]
    | unknownModifier htexts hregex hflags hbefore hc =>
      rw [compilePattern_of_holdsTexts htexts hregex, hflags, Pattern.modeOf_eq_error _ hbefore hc]
    | invalid htexts hregex hflags hnone =>
      rw [compilePattern_of_holdsTexts htexts hregex, rule.modeOf_eq hflags]
      simp only [hnone]

theorem decides_readBound (schema : FieldSchema) (rule : BoundRule) (family : NumberFamily) :
    Decides (NumberRule.readBound schema.name rule : Except CompileError (Bound family.Number))
      (family.IsThreshold (Text.trimChars rule.value.toList)) (schema.WrongBound rule family) := by
  have htrim : (Text.trim rule.value).toList = Text.trimChars rule.value.toList := by
    rw [Text.trim, String.toList_ofList]
  unfold NumberRule.readBound
  simp only [htrim]
  cases hread : (Measure.read? (Text.trimChars rule.value.toList) : Option family.Number) with
  | none =>
    have hnot := NumberFamily.read?_eq_none_iff.mp hread
    exact .error _ hnot fun other => and_iff_right hnot
  | some x =>
    have hyes : family.IsThreshold (Text.trimChars rule.value.toList) :=
      ⟨x, NumberFamily.read?_eq_some_iff.mp hread⟩
    exact .ok _ hyes fun other hother => hother.1 hyes

theorem decides_ofRange (schema : FieldSchema) (source : String) (family : NumberFamily) :
    Decides (NumberRule.ofRange schema.name source : Except CompileError (NumberRule family.Number))
      (family.IsRange (Text.trimChars source.toList)) (schema.WrongRange source family) := by
  have hread := Interval.decides_read family source
  unfold NumberRule.ofRange
  cases hresult : (Interval.read source : Except RangeError (Interval family.Number)) with
  | ok interval =>
    have hyes := hread.ok_iff.mp ⟨interval, hresult⟩
    exact .ok _ hyes fun _ ⟨malformed, hno, _⟩ => hread.not_bad hyes malformed hno
  | error malformed =>
    have hno := (hread.error_iff malformed).mp hresult
    refine .error _ (fun hyes => hread.not_bad hyes malformed hno) fun other => ⟨?_, ?_⟩
    · rintro ⟨actual, hactual, rfl⟩
      have hother := (hread.error_iff actual).mpr hactual
      rw [Except.error.inj (hother.symm.trans hresult)]
    · rintro rfl
      exact ⟨malformed, hno, rfl⟩

/-- The check of a number rule is compiled if the field holds numbers and the rule can be read in
their family. -/
theorem decides_compileNumber (schema : FieldSchema) (kind : ConstraintKind)
    (read : {α : Type} → [Measure α] → Except CompileError (NumberRule α))
    {good : NumberFamily → Prop} {wrong : NumberFamily → CompileError → Prop}
    (hread : ∀ family : NumberFamily,
      Decides (read : Except CompileError (NumberRule family.Number)) (good family)
        (wrong family)) :
    Decides (schema.compileNumber kind read)
      (∃ family, schema.field.HoldsNumbers family ∧ good family)
      (schema.RefusesNumber kind wrong) := by
  cases hfamily : schema.numberFamily? with
  | none =>
    have hnone := numberFamily?_eq_none_iff.mp hfamily
    rw [compileNumber, hfamily]
    refine .error _ (fun ⟨family, hholds, _⟩ => hnone family hholds) fun other => ?_
    rw [RefusesNumber, and_iff_right hnone, or_iff_left]
    exact fun ⟨family, hholds, _⟩ => hnone family hholds
  | some family =>
    have hholds := numberFamily?_eq_some_iff.mp hfamily
    have honly : ∀ {other : NumberFamily}, schema.field.HoldsNumbers other → other = family :=
      fun hother => Option.some.inj ((numberFamily?_eq_some_iff.mpr hother).symm.trans hfamily)
    have hcheck : Decides (schema.compileNumber kind read) (good family) (wrong family) := by
      rw [compileNumber, hfamily]
      cases family with
      | signed => exact (hread .signed).map _
      | unsigned => exact (hread .unsigned).map _
      | single => exact (hread .single).map _
      | double => exact (hread .double).map _
    refine hcheck.congr ⟨fun hgood => ⟨family, hholds, hgood⟩, ?_⟩ fun cause =>
      ⟨fun hwrong => Or.inr ⟨family, hholds, hwrong⟩, ?_⟩
    · rintro ⟨other, hother, hgood⟩
      exact honly hother ▸ hgood
    · rintro (⟨hnone, -⟩ | ⟨other, hother, hwrong⟩)
      · exact absurd hholds (hnone family)
      · exact honly hother ▸ hwrong

theorem decides_distinct (schema : FieldSchema) (owner : MessageSchema) :
    Decides (schema.compile owner (.distinct true)) (schema.Admits owner (.distinct true))
      (schema.Refuses owner (.distinct true)) := by
  have hunfit : (decide (schema.kind ≠ .list) || schema.messageType?.isSome) = true ↔
      (schema.field.shape = .list → ∃ name, schema.field.type = .message name) := by
    rw [Bool.or_eq_true, decide_eq_true_iff, Option.isSome_iff_exists, ne_eq, kind_eq_list_iff]
    simp only [messageType?_eq_some_iff]
    exact imp_iff_not_or.symm
  simp only [compile]
  split
  case isTrue hcase =>
    have hbad := hunfit.mp hcase
    refine .error _ (fun hadmits => ?_) fun other => ⟨fun h => h.2.2, fun h => ⟨rfl, hbad, h⟩⟩
    obtain ⟨hlist, hnone⟩ := hadmits rfl
    obtain ⟨name, hname⟩ := hbad hlist
    exact hnone name hname
  case isFalse hcase =>
    rw [hunfit] at hcase
    obtain ⟨hlist, hnone⟩ := Classical.not_imp.mp hcase
    exact .ok _ (fun _ => ⟨hlist, not_exists.mp hnone⟩) fun cause h => hcase h.2.1

theorem decides_dependency (schema : FieldSchema) (owner : MessageSchema)
    (rule : DependencyRule) :
    Decides (schema.compile owner (.dependency rule)) (schema.Admits owner (.dependency rule))
      (schema.Refuses owner (.dependency rule)) := by
  simp only [compile]
  split
  case h_1 partner hfind =>
    have hpartner : partner.name = rule.partner := by simpa using List.find?_some hfind
    have hmem := List.mem_of_find?_eq_some hfind
    exact .ok _ ⟨partner, hmem, hpartner⟩ fun cause hcause => hcause.1 partner hmem hpartner
  case h_2 hfind =>
    have hnone : ∀ partner ∈ owner.fields, partner.name ≠ rule.partner := by
      simpa using List.find?_eq_none.mp hfind
    have hbad : ¬ schema.Admits owner (.dependency rule) := by
      rintro ⟨partner, hmem, hname⟩
      exact hnone partner hmem hname
    exact .error _ hbad fun other => and_iff_right hnone

theorem decides_recurse (schema : FieldSchema) (owner : MessageSchema) :
    Decides (schema.compile owner (.recurse true)) (schema.Admits owner (.recurse true))
      (schema.Refuses owner (.recurse true)) := by
  simp only [compile]
  split
  case h_1 nested hnested =>
    have htype := messageType?_eq_some_iff.mp hnested
    exact .ok _ (fun _ => ⟨nested, htype⟩) fun cause h => h.2.1 nested htype
  case h_2 hnone =>
    have hno : ∀ name, schema.field.type ≠ .message name := by
      intro name htype
      cases hnone.symm.trans (messageType?_eq_some_iff.mpr htype)
    refine .error _ (fun hadmits => ?_) fun other => ⟨fun h => h.2.2, fun h => ⟨rfl, hno, h⟩⟩
    obtain ⟨name, htype⟩ := hadmits rfl
    exact hno name htype

/-- **Compiling a constraint on a field decides whether the field admits it.** -/
theorem decides_compile (schema : FieldSchema) (owner : MessageSchema) {constraint : Constraint}
    (htarget : constraint.kind.target = .field) :
    Decides (schema.compile owner constraint) (schema.Admits owner constraint)
      (schema.Refuses owner constraint) := by
  cases constraint with
  | required on => cases on <;> exact .ok _ trivial fun _ => id
  | pattern rule => exact (schema.decides_compilePattern owner rule).map some
  | min rule =>
    have hnumber := schema.decides_compileNumber .min (NumberRule.ofMin schema.name rule)
      fun family => (schema.decides_readBound rule family).map _
    exact hnumber.map some
  | max rule =>
    have hnumber := schema.decides_compileNumber .max (NumberRule.ofMax schema.name rule)
      fun family => (schema.decides_readBound rule family).map _
    exact hnumber.map some
  | range source =>
    have hnumber := schema.decides_compileNumber .range (NumberRule.ofRange schema.name source)
      (schema.decides_ofRange source)
    exact hnumber.map some
  | distinct on =>
    cases on with
    | false => exact .ok _ (fun hoff => nomatch hoff) fun _ hoff => nomatch hoff.1
    | true => exact schema.decides_distinct owner
  | dependency rule => exact schema.decides_dependency owner rule
  | recurse on =>
    cases on with
    | false => exact .ok _ (fun hoff => nomatch hoff) fun _ hoff => nomatch hoff.1
    | true => exact schema.decides_recurse owner
  | choice rule => cases htarget
  | combination source => cases htarget

end FieldSchema

/-! ## Constraints on oneofs and messages -/

namespace MessageSchema

/-- The schema has a field with a name. -/
def HasField (schema : MessageSchema) (name : String) : Prop :=
  ∃ field ∈ schema.fields, field.name = name

/-- A constraint on a message is admissible. -/
def Admits (schema : MessageSchema) : Constraint → Prop
  | .combination source => ∃ expression, Combination.parse? source = some expression ∧
    ∀ name ∈ expression.names, schema.HasField name
  | _ => False

/-- A constraint on a message is not admissible: it is no combination, or the first name in it that
the message does not have. -/
inductive Refuses (schema : MessageSchema) : Constraint → CompileError → Prop
  | noCombination {source : String} : Combination.parse? source = none →
      Refuses schema (.combination source) (.invalidCombination source)
  | unknownName {source name : String} {expression : Combination} {before after : List String} :
      Combination.parse? source = some expression → expression.names = before ++ name :: after →
      (∀ known ∈ before, schema.HasField known) → ¬ schema.HasField name →
      Refuses schema (.combination source)
        (.unknownCombinationField schema.type.fullName source name)

theorem field?_isNone_iff {schema : MessageSchema} {name : String} :
    (schema.field? name).isNone = true ↔ ¬ schema.HasField name := by
  rw [Option.isNone_iff_eq_none, field?, List.find?_eq_none]
  simp [HasField]

/-- The first unknown name is the first that is looked for in vain. -/
theorem find?_unknown_eq_some_iff {schema : MessageSchema} {names : List String} {name : String} :
    names.find? (fun name => (schema.field? name).isNone) = some name ↔
      ∃ before after, names = before ++ name :: after ∧
        (∀ known ∈ before, schema.HasField known) ∧ ¬ schema.HasField name := by
  rw [List.find?_eq_some_iff_append, field?_isNone_iff]
  have hknown : ∀ known, (!(schema.field? known).isNone) = true ↔ schema.HasField known := by
    intro known
    rw [Bool.not_eq_true', ← Bool.not_eq_true, field?_isNone_iff, not_not]
  simp only [hknown]
  constructor
  · rintro ⟨hname, before, after, rfl, hbefore⟩
    exact ⟨before, after, rfl, hbefore, hname⟩
  · rintro ⟨before, after, rfl, hbefore, hname⟩
    exact ⟨hname, before, after, rfl, hbefore⟩

theorem decides_compileCombination (schema : MessageSchema) (source : String) :
    Decides (schema.compileCombination source) (schema.Admits (.combination source))
      (schema.Refuses (.combination source)) := by
  refine .of_total ?_ ?_ ?_
  · rintro ⟨expression, hparse, hall⟩
    have hnone : expression.names.find? (fun name => (schema.field? name).isNone) = none :=
      List.find?_eq_none.mpr fun name hname hno => field?_isNone_iff.mp hno (hall name hname)
    simp [compileCombination, hparse, hnone]
  · intro cause hcause
    cases hcause with
    | noCombination hparse => simp [compileCombination, hparse]
    | unknownName hparse hnames hbefore hname =>
      have hfind := find?_unknown_eq_some_iff.mpr ⟨_, _, hnames, hbefore, hname⟩
      simp [compileCombination, hparse, hfind]
  · cases hparse : Combination.parse? source with
    | none => exact Or.inr ⟨_, .noCombination hparse⟩
    | some expression =>
      cases hfind : expression.names.find? fun name => (schema.field? name).isNone with
      | some name =>
        obtain ⟨before, after, hnames, hbefore, hname⟩ := find?_unknown_eq_some_iff.mp hfind
        exact Or.inr ⟨_, .unknownName hparse hnames hbefore hname⟩
      | none =>
        refine Or.inl ⟨expression, hparse, fun name hname => ?_⟩
        have hknown := List.find?_eq_none.mp hfind name hname
        rwa [field?_isNone_iff, not_not] at hknown

end MessageSchema

/-! ## Constraints where they are attached -/

namespace Site

/-- The target of the element that a constraint is attached to. -/
def target : Site → Target
  | field _ _ => .field
  | oneof _ _ => .oneof
  | message _ => .message

/-- A constraint is admissible where it is attached.  A choice on a oneof always is. -/
def Admissible (owner : MessageSchema) : Site → Prop
  | field schema constraint => schema.Admits owner constraint
  | oneof _ constraint => constraint.kind = .choice
  | message constraint => owner.Admits constraint

/-- A constraint is not admissible where it is attached, for a reason. -/
def Refused (owner : MessageSchema) : Site → CompileError → Prop
  | field schema constraint, cause => schema.Refuses owner constraint cause
  | oneof _ _, _ => False
  | message constraint, cause => owner.Refuses constraint cause

/-- **Compiling a constraint decides whether it is admissible** where it is attached, if its kind
belongs there. -/
theorem decides_compile (owner : MessageSchema) {site : Site}
    (htarget : site.constraint.kind.target = site.target) :
    Decides (site.compile owner) (site.Admissible owner) (site.Refused owner) := by
  cases site with
  | field schema constraint => exact schema.decides_compile owner htarget
  | oneof schema constraint =>
    cases constraint with
    | choice rule => exact .ok _ rfl fun _ => id
    | _ => cases htarget
  | message constraint =>
    cases constraint with
    | combination source => exact owner.decides_compileCombination source
    | _ => cases htarget

end Site

end MessageConstraints
