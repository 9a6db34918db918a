import MessageConstraints.Proofs.Admissible

/-!
# Number rules and their texts

Which rule is read from a bound or a range on a field that holds numbers
(`NumberFamily.Reads`): the test, the text and the words.  Such a constraint is compiled to the
check of this rule and to nothing else (`FieldSchema.compile_eq_ok_iff_reads`), a value passes the
check unless it is a number that the test does not admit (`NumberRule.check_eq_pass_iff`), and on a
message the check reports the values that do not pass (`FieldSchema.reports_check`).
-/

namespace MessageConstraints

/-- A constraint sets bounds for numbers. -/
def Constraint.SetsBounds : Constraint → Prop
  | .min _ | .max _ | .range _ => True
  | _ => False

/-- A value passes a number rule unless it is a number that the test does not admit. -/
theorem NumberRule.check_eq_pass_iff {α : Type} [Measure α] (rule : NumberRule α) (field : String)
    (value : Value) :
    rule.check field value = .pass ↔
      ∀ x : α, Measure.ofValue? value = some x → rule.test.admits x = true := by
  unfold NumberRule.check
  cases (Measure.ofValue? value : Option α) with
  | none => simp
  | some x => cases hadmits : rule.test.admits x <;> simp [hadmits, Outcome.single]

namespace NumberFamily

variable {family : NumberFamily}

/-- A number rule as a check in its family. -/
def check : (family : NumberFamily) → NumberRule family.Number → NumberCheck
  | .signed => .signed
  | .unsigned => .unsigned
  | .single => .single
  | .double => .double

/-- What a value comes to is the same under a number rule and its check. -/
theorem check_check (rule : NumberRule family.Number) (field : String) (value : Value) :
    (family.check rule).check field value = rule.check field value := by
  cases family <;> rfl

/-- The rule that a bound or a range is read as: a threshold is included unless the bound is
exclusive, and the ends of a range if they stand beside square brackets. -/
inductive Reads (family : NumberFamily) : Constraint → NumberRule family.Number → Prop
  | min {rule : BoundRule} {low : family.Number} :
      family.Denotes (Text.trimChars rule.value.toList) low →
      Reads family (.min rule) ⟨.min ⟨low, !rule.exclusive⟩, Text.trim rule.value, rule.message⟩
  | max {rule : BoundRule} {high : family.Number} :
      family.Denotes (Text.trimChars rule.value.toList) high →
      Reads family (.max rule) ⟨.max ⟨high, !rule.exclusive⟩, Text.trim rule.value, rule.message⟩
  | range {source : String} {first last : Char} {inner before after : List Char}
      {low high : family.Number} : (first = '[' ∨ first = '(') → (last = ']' ∨ last = ')') →
      Text.trimChars source.toList = first :: (inner ++ [last]) →
      Text.Cuts ['.', '.'] inner before after → family.Denotes (Text.trimChars before) low →
      family.Denotes (Text.trimChars after) high → Measure.lt high low = false →
      Reads family (.range source)
        ⟨.range ⟨⟨low, decide (first = '[')⟩, ⟨high, decide (last = ']')⟩⟩, Text.trim source, none⟩

/-- A range is read at its own brackets, from the texts that it is cut into. -/
theorem reads_range_iff {source : String} {first last : Char} {inner before after : List Char}
    (hfirst : first = '[' ∨ first = '(') (hlast : last = ']' ∨ last = ')')
    (heq : Text.trimChars source.toList = first :: (inner ++ [last]))
    (hcuts : Text.Cuts ['.', '.'] inner before after) {rule : NumberRule family.Number} :
    family.Reads (.range source) rule ↔ ∃ low high,
      family.Denotes (Text.trimChars before) low ∧ family.Denotes (Text.trimChars after) high ∧
        Measure.lt high low = false ∧
          rule = ⟨.range ⟨⟨low, decide (first = '[')⟩, ⟨high, decide (last = ']')⟩⟩,
            Text.trim source, none⟩ := by
  constructor
  · intro hreads
    cases hreads with
    | range _ _ heq' hcuts' hlow hhigh hle =>
      obtain ⟨rfl, hrest⟩ := List.cons.inj (heq.symm.trans heq')
      obtain ⟨rfl, hends⟩ := List.append_inj' hrest rfl
      obtain rfl := List.singleton_inj.mp hends
      obtain ⟨rfl, rfl⟩ := hcuts.unique hcuts'
      exact ⟨_, _, hlow, hhigh, hle, rfl⟩
  · rintro ⟨low, high, hlow, hhigh, hle, rfl⟩
    exact .range hfirst hlast heq hcuts hlow hhigh hle

theorem Reads.kind_eq {constraint : Constraint} {rule : NumberRule family.Number}
    (h : family.Reads constraint rule) : rule.test.kind = constraint.kind := by
  cases h <;> rfl

theorem Reads.setsBounds {constraint : Constraint} {rule : NumberRule family.Number}
    (h : family.Reads constraint rule) : constraint.SetsBounds := by
  cases h <;> trivial

end NumberFamily

namespace NumberRule

variable {family : NumberFamily} {field : String}

theorem readBound_eq_ok_iff {rule : BoundRule} {bound : Bound family.Number} :
    readBound field rule = .ok bound ↔
      ∃ x, family.Denotes (Text.trimChars rule.value.toList) x ∧ bound = ⟨x, !rule.exclusive⟩ := by
  have htrim : (Text.trim rule.value).toList = Text.trimChars rule.value.toList := by
    rw [Text.trim, String.toList_ofList]
  simp only [readBound, htrim, ← NumberFamily.read?_eq_some_iff]
  cases (Measure.read? (Text.trimChars rule.value.toList) : Option family.Number) with
  | none => simp
  | some x => simp [eq_comm]

theorem ofMin_eq_ok_iff {rule : BoundRule} {read : NumberRule family.Number} :
    ofMin field rule = .ok read ↔ family.Reads (.min rule) read := by
  rw [ofMin, map_eq_ok_iff]
  constructor
  · rintro ⟨bound, hbound, rfl⟩
    obtain ⟨low, hlow, rfl⟩ := readBound_eq_ok_iff.mp hbound
    exact .min hlow
  · intro hreads
    cases hreads with
    | min hlow => exact ⟨_, readBound_eq_ok_iff.mpr ⟨_, hlow, rfl⟩, rfl⟩

theorem ofMax_eq_ok_iff {rule : BoundRule} {read : NumberRule family.Number} :
    ofMax field rule = .ok read ↔ family.Reads (.max rule) read := by
  rw [ofMax, map_eq_ok_iff]
  constructor
  · rintro ⟨bound, hbound, rfl⟩
    obtain ⟨high, hhigh, rfl⟩ := readBound_eq_ok_iff.mp hbound
    exact .max hhigh
  · intro hreads
    cases hreads with
    | max hhigh => exact ⟨_, readBound_eq_ok_iff.mpr ⟨_, hhigh, rfl⟩, rfl⟩

theorem ofRange_eq_ok_iff {source : String} {read : NumberRule family.Number} :
    ofRange field source = .ok read ↔ family.Reads (.range source) read := by
  constructor
  · intro hread
    have hrange : family.IsRange (Text.trimChars source.toList) := by
      refine (Interval.decides_read family source).ok_iff.mp ?_
      unfold ofRange at hread
      split at hread
      case h_1 interval hinterval => exact ⟨interval, hinterval⟩
      case h_2 => cases hread
    obtain ⟨inner, before, after, low, high, ⟨first, last, hfirst, hlast, heq⟩, hcuts, hlow, hhigh,
      hle⟩ := hrange
    rw [ofRange, Interval.read_of_denotes hfirst hlast heq hcuts hlow hhigh hle] at hread
    obtain rfl := Except.ok.inj hread
    exact .range hfirst hlast heq hcuts hlow hhigh hle
  · intro hreads
    cases hreads with
    | range hfirst hlast heq hcuts hlow hhigh hle =>
      rw [ofRange, Interval.read_of_denotes hfirst hlast heq hcuts hlow hhigh hle]

end NumberRule

namespace FieldSchema

variable {schema : FieldSchema} {owner : MessageSchema} {constraint : Constraint}
  {family : NumberFamily}

/-- On a field that holds numbers, a number rule is read in their family. -/
theorem compileNumber_of_holdsNumbers (hholds : schema.field.HoldsNumbers family)
    (kind : ConstraintKind)
    (read : {α : Type} → [Measure α] → Except CompileError (NumberRule α)) :
    schema.compileNumber kind read =
      (read : Except CompileError (NumberRule family.Number)).map fun rule =>
        .number schema.field (family.check rule) := by
  rw [compileNumber, numberFamily?_eq_some_iff.mpr hholds]
  cases family <;> rfl

theorem compileNumber_eq_ok_iff (hholds : schema.field.HoldsNumbers family)
    {kind : ConstraintKind}
    {read : {α : Type} → [Measure α] → Except CompileError (NumberRule α)}
    (hread : ∀ rule : NumberRule family.Number, read = .ok rule ↔ family.Reads constraint rule)
    {check : Option Check} :
    (schema.compileNumber kind read).map some = .ok check ↔
      ∃ rule, family.Reads constraint rule ∧
        check = some (.number schema.field (family.check rule)) := by
  simp only [compileNumber_of_holdsNumbers hholds, map_eq_ok_iff, hread]
  constructor
  · rintro ⟨_, ⟨rule, hreads, rfl⟩, rfl⟩
    exact ⟨rule, hreads, rfl⟩
  · rintro ⟨rule, hreads, rfl⟩
    exact ⟨_, ⟨rule, hreads, rfl⟩, rfl⟩

/-- **On a field that holds numbers, bounds and ranges are compiled to the checks of the rules that
they are read as.** -/
theorem compile_eq_ok_iff_reads (hholds : schema.field.HoldsNumbers family)
    (hbounds : constraint.SetsBounds) {check : Option Check} :
    schema.compile owner constraint = .ok check ↔ ∃ rule, family.Reads constraint rule ∧
      check = some (.number schema.field (family.check rule)) := by
  cases constraint with
  | min rule => exact compileNumber_eq_ok_iff hholds fun _ => NumberRule.ofMin_eq_ok_iff
  | max rule => exact compileNumber_eq_ok_iff hholds fun _ => NumberRule.ofMax_eq_ok_iff
  | range source => exact compileNumber_eq_ok_iff hholds fun _ => NumberRule.ofRange_eq_ok_iff
  | _ => exact hbounds.elim

theorem compile_of_reads (hholds : schema.field.HoldsNumbers family) (owner : MessageSchema)
    {rule : NumberRule family.Number} (h : family.Reads constraint rule) :
    schema.compile owner constraint = .ok (some (.number schema.field (family.check rule))) :=
  (compile_eq_ok_iff_reads hholds h.setsBounds).mpr ⟨rule, h, rfl⟩

/-- The check of a number rule reports the numbers that its test does not admit. -/
theorem reports_check (rule : NumberRule family.Number) (visit : String → Message → Outcome)
    (message : Message) :
    ((Check.number schema.field (family.check rule)).outcome .collect visit message).Reports
      fun path kind => kind = rule.test.kind ∧ ∃ value, message.ValueAt schema.field path value ∧
        ∃ x : family.Number, Measure.ofValue? value = some x ∧ rule.test.admits x = false := by
  refine Check.reports_each (fun value => ?_) schema.field message
  rw [NumberFamily.check_check]
  exact Check.reports_numberRule rule schema.field.name value

end FieldSchema

namespace Sample

/-- A field that holds single values of a scalar type. -/
def time (type : ScalarType) : FieldSchema where
  field := ⟨"time", "Clock.time", "time", 1, .scalar type, .singular, none, []⟩
  constraints := .empty

/-- A message with this field only. -/
def clock (type : ScalarType) : MessageSchema where
  type := ⟨"Clock", [(time type).field], [], [], []⟩
  fields := [time type]
  oneofs := []
  constraints := .empty

end Sample

end MessageConstraints
