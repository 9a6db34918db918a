import Mathlib.Data.Nat.Digits.Defs
import MessageConstraints.Proofs.NumberTests

/-!
# Bounds for integers

Thresholds for integers are an optional sign and decimal digits, and denote integers that 64 bits
hold (`IntegerFamily.Denotes`).  A bound or a range that is made of such thresholds allows the
integers that satisfy its inequalities (`IntegerFamily.Allows`).  No threshold has a point in it, so
the two points of a range can be found in one way only.  On a field of integers bounds and ranges
compile exactly if they allow integers in this sense, and a value passes exactly if its integer is
allowed (`FieldSchema.compile_integers`).
-/

namespace MessageConstraints

/-! ## Numerals -/

/-- A row of decimal digits, the most significant first, denotes a number. -/
structure IsNumeral (cs : List Char) (n : Nat) : Prop where
  ne_nil : cs ≠ []
  digit : ∀ c ∈ cs, '0' ≤ c ∧ c ≤ '9'
  eq_ofDigits : n = Nat.ofDigits 10 (cs.reverse.map fun c => c.toNat - '0'.toNat)

theorem isDigit_iff {c : Char} : c.isDigit = true ↔ '0' ≤ c ∧ c ≤ '9' := by
  simp only [Char.isDigit, Bool.and_eq_true, decide_eq_true_eq]
  exact Iff.rfl

/-- Reading digits from the left is adding up their multiples of powers of ten. -/
theorem foldl_eq_ofDigits (cs : List Char) :
    cs.foldl (fun acc c => acc * 10 + (c.toNat - 48)) 0 =
      Nat.ofDigits 10 (cs.reverse.map fun c => c.toNat - '0'.toNat) := by
  induction cs using List.reverseRecOn with
  | nil => rfl
  | append_singleton cs c ih =>
    have hzero : '0'.toNat = 48 := rfl
    rw [List.foldl_append, List.foldl_cons, List.foldl_nil, ih, List.reverse_concat,
      List.map_cons, Nat.ofDigits_cons, hzero]
    omega

theorem digits?_eq_some_iff {cs : List Char} {n : Nat} :
    digits? cs = some n ↔ IsNumeral cs n := by
  have hgood : (cs.isEmpty || !cs.all Char.isDigit) = false ↔
      cs ≠ [] ∧ ∀ c ∈ cs, '0' ≤ c ∧ c ≤ '9' := by
    simp [isDigit_iff]
  unfold digits?
  rw [foldl_eq_ofDigits]
  constructor
  · intro h
    split at h
    case isTrue => cases h
    case isFalse hcase =>
      obtain ⟨hne, hdigit⟩ := hgood.mp (Bool.eq_false_iff.mpr hcase)
      exact ⟨hne, hdigit, (Option.some.inj h).symm⟩
  · rintro ⟨hne, hdigit, rfl⟩
    rw [if_neg (Bool.eq_false_iff.mp (hgood.mpr ⟨hne, hdigit⟩))]

namespace IsNumeral

variable {cs : List Char} {n : Nat}

/-- A numeral does not begin with a character that is no digit. -/
theorem ne_cons (h : IsNumeral cs n) {c : Char} (hc : ¬ ('0' ≤ c ∧ c ≤ '9')) (rest : List Char) :
    cs ≠ c :: rest := by
  rintro rfl
  exact hc (h.digit c List.mem_cons_self)

theorem not_mem (h : IsNumeral cs n) {c : Char} (hc : ¬ ('0' ≤ c ∧ c ≤ '9')) : c ∉ cs :=
  fun hmem => hc (h.digit c hmem)

end IsNumeral

/-! ## Thresholds -/

/-- The two families of integers. -/
inductive IntegerFamily where
  | signed
  | unsigned
deriving Repr, DecidableEq

namespace IntegerFamily

variable {kind : IntegerFamily} {cs : List Char} {n : Int}

/-- The family as one of numbers. -/
def family : IntegerFamily → NumberFamily
  | signed => .signed
  | unsigned => .unsigned

/-- The least integer of 64 bits. -/
def least : IntegerFamily → Int
  | signed => -2 ^ 63
  | unsigned => 0

/-- The greatest integer of 64 bits. -/
def greatest : IntegerFamily → Int
  | signed => 2 ^ 63 - 1
  | unsigned => 2 ^ 64 - 1

/-- The integer that a value of a field of the family holds. -/
def integer? : IntegerFamily → Value → Option Int
  | signed, .int32 n => some n.toInt
  | signed, .int64 n => some n.toInt
  | unsigned, .uint32 n => some n.toNat
  | unsigned, .uint64 n => some n.toNat
  | _, _ => none

/-- A text spells an integer: digits, after a sign if there is one.  Only signed integers can have a
minus sign. -/
inductive Spells (kind : IntegerFamily) : List Char → Int → Prop
  | plain {cs : List Char} {n : Nat} : IsNumeral cs n → Spells kind cs n
  | plus {cs : List Char} {n : Nat} : IsNumeral cs n → Spells kind ('+' :: cs) n
  | minus {cs : List Char} {n : Nat} :
      kind = .signed → IsNumeral cs n → Spells kind ('-' :: cs) (-n)

/-- A text denotes an integer that the family has. -/
structure Denotes (kind : IntegerFamily) (cs : List Char) (n : Int) : Prop where
  spells : kind.Spells cs n
  least_le : kind.least ≤ n
  le_greatest : n ≤ kind.greatest

theorem denotes_iff_spells :
    kind.Denotes cs n ↔ kind.Spells cs n ∧ kind.least ≤ n ∧ n ≤ kind.greatest :=
  ⟨fun h => ⟨h.spells, h.least_le, h.le_greatest⟩, fun ⟨h, hleast, hgreatest⟩ =>
    ⟨h, hleast, hgreatest⟩⟩

theorem Spells.not_mem_point (h : kind.Spells cs n) : '.' ∉ cs := by
  cases h with
  | plain hnumeral => exact hnumeral.not_mem (by decide)
  | plus hnumeral => simpa using hnumeral.not_mem (c := '.') (by decide)
  | minus _ hnumeral => simpa using hnumeral.not_mem (c := '.') (by decide)

theorem signedInteger?_eq (cs : List Char) :
    signedInteger? cs = (digits? (splitSign cs).2).map fun m : Nat =>
      if (splitSign cs).1 then -(m : Int) else (m : Int) := by
  unfold signedInteger?
  rcases splitSign cs with ⟨negative, rest⟩
  show Option.map _ ((digits? rest).bind fun m => some (m : Int)) = Option.map _ (digits? rest)
  cases digits? rest <;> rfl

theorem splitSign_of_isNumeral {m : Nat} (h : IsNumeral cs m) : splitSign cs = (false, cs) := by
  unfold splitSign
  split
  · exact absurd rfl (h.ne_cons (by decide) _)
  · exact absurd rfl (h.ne_cons (by decide) _)
  · rfl

theorem signedInteger?_eq_some_iff : signedInteger? cs = some n ↔ signed.Spells cs n := by
  rw [signedInteger?_eq]
  constructor
  · intro h
    obtain ⟨m, hm, rfl⟩ := Option.map_eq_some_iff.mp h
    have hnumeral := digits?_eq_some_iff.mp hm
    unfold splitSign at hnumeral ⊢
    split at hnumeral
    · exact .minus rfl hnumeral
    · exact .plus hnumeral
    · exact .plain hnumeral
  · intro h
    cases h with
    | plain hnumeral => simp [splitSign_of_isNumeral hnumeral, digits?_eq_some_iff.mpr hnumeral]
    | plus hnumeral => simp [splitSign, digits?_eq_some_iff.mpr hnumeral]
    | minus _ hnumeral => simp [splitSign, digits?_eq_some_iff.mpr hnumeral]

theorem unsignedInteger?_eq_some_iff {n : Nat} :
    unsignedInteger? cs = some n ↔ unsigned.Spells cs n := by
  constructor
  · intro h
    unfold unsignedInteger? at h
    split at h
    · exact .plus (digits?_eq_some_iff.mp h)
    · exact .plain (digits?_eq_some_iff.mp h)
  · intro h
    generalize hm : (n : Int) = m at h
    cases h with
    | plain hnumeral =>
      obtain rfl := Int.natCast_inj.mp hm
      unfold unsignedInteger?
      split
      · exact absurd rfl (hnumeral.ne_cons (by decide) _)
      · exact digits?_eq_some_iff.mpr hnumeral
    | plus hnumeral =>
      obtain rfl := Int.natCast_inj.mp hm
      exact digits?_eq_some_iff.mpr hnumeral
    | minus hsigned => cases hsigned

/-! ## Numbers of a family as integers -/

/-- A number of the family as an integer. -/
def toInt : (kind : IntegerFamily) → kind.family.Number → Int
  | signed => fun (n : Int) => n
  | unsigned => fun (n : Nat) => n

theorem denotes_iff {x : kind.family.Number} :
    kind.family.Denotes cs x ↔ kind.Denotes cs (kind.toInt x) := by
  rw [denotes_iff_spells]
  cases kind with
  | signed =>
    have hbounds : ∀ n : Int, (-2 ^ 63 ≤ n ∧ n < 2 ^ 63) ↔
        signed.least ≤ n ∧ n ≤ signed.greatest := by
      simp only [least, greatest]
      omega
    exact and_congr signedInteger?_eq_some_iff (hbounds x)
  | unsigned =>
    have hbounds : ∀ n : Nat, n < 2 ^ 64 ↔
        unsigned.least ≤ (n : Int) ∧ (n : Int) ≤ unsigned.greatest := by
      simp only [least, greatest]
      omega
    exact and_congr unsignedInteger?_eq_some_iff (hbounds x)

/-- An integer that is denoted is a number of the family. -/
theorem Denotes.exists_number (h : kind.Denotes cs n) :
    ∃ x, kind.toInt x = n ∧ kind.family.Denotes cs x := by
  have hnumber : ∃ x, kind.toInt x = n := by
    cases kind with
    | signed => exact ⟨n, rfl⟩
    | unsigned => exact ⟨n.toNat, Int.toNat_of_nonneg h.least_le⟩
  obtain ⟨x, rfl⟩ := hnumber
  exact ⟨x, rfl, denotes_iff.mpr h⟩

theorem le_iff {x y : kind.family.Number} :
    Measure.le x y = true ↔ kind.toInt x ≤ kind.toInt y := by
  cases kind with
  | signed =>
    have hsigned : ∀ a b : Int, decide (a ≤ b) = true ↔ a ≤ b := fun _ _ => decide_eq_true_iff
    exact hsigned x y
  | unsigned =>
    have hunsigned : ∀ a b : Nat, decide (a ≤ b) = true ↔ (a : Int) ≤ b := by simp
    exact hunsigned x y

theorem lt_iff {x y : kind.family.Number} :
    Measure.lt x y = true ↔ kind.toInt x < kind.toInt y := by
  cases kind with
  | signed =>
    have hsigned : ∀ a b : Int, decide (a < b) = true ↔ a < b := fun _ _ => decide_eq_true_iff
    exact hsigned x y
  | unsigned =>
    have hunsigned : ∀ a b : Nat, decide (a < b) = true ↔ (a : Int) < b := by simp
    exact hunsigned x y

theorem integer?_eq (kind : IntegerFamily) (value : Value) :
    kind.integer? value = (Measure.ofValue? value : Option kind.family.Number).map kind.toInt := by
  cases kind <;> cases value <;> rfl

theorem admitsAbove_iff {bound : Bound kind.family.Number} {x : kind.family.Number} :
    bound.admitsAbove x = true ↔
      if bound.inclusive then kind.toInt bound.value ≤ kind.toInt x
      else kind.toInt bound.value < kind.toInt x := by
  unfold Bound.admitsAbove
  split
  · exact le_iff
  · exact lt_iff

theorem admitsBelow_iff {bound : Bound kind.family.Number} {x : kind.family.Number} :
    bound.admitsBelow x = true ↔
      if bound.inclusive then kind.toInt x ≤ kind.toInt bound.value
      else kind.toInt x < kind.toInt bound.value := by
  unfold Bound.admitsBelow
  split
  · exact le_iff
  · exact lt_iff

/-! ## Bounds and ranges -/

/-- A bound or a range allows some integers: those that are in the right order with its
thresholds.  They are the thresholds themselves as well unless the bound is exclusive, or the
bracket beside the threshold is a round one. -/
inductive Allows (kind : IntegerFamily) : Constraint → (Int → Prop) → Prop
  | min {rule : BoundRule} {low : Int} : kind.Denotes (Text.trimChars rule.value.toList) low →
      Allows kind (.min rule) fun n => if rule.exclusive then low < n else low ≤ n
  | max {rule : BoundRule} {high : Int} : kind.Denotes (Text.trimChars rule.value.toList) high →
      Allows kind (.max rule) fun n => if rule.exclusive then n < high else n ≤ high
  | range {source : String} {first last : Char} {before after : List Char} {low high : Int} :
      (first = '[' ∨ first = '(') → (last = ']' ∨ last = ')') →
      Text.trimChars source.toList = first :: (before ++ ['.', '.'] ++ after ++ [last]) →
      kind.Denotes (Text.trimChars before) low → kind.Denotes (Text.trimChars after) high →
      low ≤ high →
      Allows kind (.range source) fun n =>
        (if first = '[' then low ≤ n else low < n) ∧ (if last = ']' then n ≤ high else n < high)

/-- Between thresholds that have no point in them, two points stand in one place only. -/
theorem cuts_of_denotes {before after : List Char}
    (h : kind.Denotes (Text.trimChars before) n) :
    Text.Cuts ['.', '.'] (before ++ ['.', '.'] ++ after) before after := by
  have hpoint : '.' ∉ before := by
    rw [← List.count_eq_zero, ← Text.count_trimChars before (by decide), List.count_eq_zero]
    exact h.spells.not_mem_point
  rw [List.append_assoc]
  exact Text.cuts_points_of_not_mem hpoint

/-- What a constraint allows is what the rule tests for that is read from it. -/
theorem Allows.exists_reads {constraint : Constraint} {allowed : Int → Prop}
    (h : kind.Allows constraint allowed) : ∃ rule, kind.family.Reads constraint rule ∧
      ∀ x, rule.test.admits x = true ↔ allowed (kind.toInt x) := by
  cases h with
  | @min rule low hlow =>
    obtain ⟨low, rfl, hnumber⟩ := hlow.exists_number
    refine ⟨_, .min hnumber, fun x => admitsAbove_iff.trans ?_⟩
    cases rule.exclusive <;> simp
  | @max rule high hhigh =>
    obtain ⟨high, rfl, hnumber⟩ := hhigh.exists_number
    refine ⟨_, .max hnumber, fun x => admitsBelow_iff.trans ?_⟩
    cases rule.exclusive <;> simp
  | range hfirst hlast heq hlow hhigh hle =>
    obtain ⟨low, rfl, hlowNumber⟩ := hlow.exists_number
    obtain ⟨high, rfl, hhighNumber⟩ := hhigh.exists_number
    have hordered : Measure.lt high low = false :=
      Bool.eq_false_iff.mpr fun hlt => (lt_iff.mp hlt).not_ge hle
    refine ⟨_, .range hfirst hlast heq (cuts_of_denotes hlow) hlowNumber hhighNumber hordered,
      fun x => ?_⟩
    simp [NumberTest.admits, Interval.contains, admitsAbove_iff, admitsBelow_iff]

/-- A constraint that a rule is read from allows some integers. -/
theorem exists_allows_of_reads {constraint : Constraint} {rule : NumberRule kind.family.Number}
    (h : kind.family.Reads constraint rule) : ∃ allowed, kind.Allows constraint allowed := by
  cases h with
  | min hlow => exact ⟨_, .min (denotes_iff.mp hlow)⟩
  | max hhigh => exact ⟨_, .max (denotes_iff.mp hhigh)⟩
  | @range source first last inner before after low high hfirst hlast heq hcuts hlow hhigh
      hordered =>
    have hle : kind.toInt low ≤ kind.toInt high :=
      not_lt.mp fun hlt => Bool.eq_false_iff.mp hordered (lt_iff.mpr hlt)
    refine ⟨_, .range hfirst hlast ?_ (denotes_iff.mp hlow) (denotes_iff.mp hhigh) hle⟩
    simp only [heq, hcuts.eq_append, List.append_assoc]

/-- A value with an integer passes a rule exactly if the integer is allowed. -/
theorem check_eq_pass_iff {rule : NumberRule kind.family.Number} {allowed : Int → Prop}
    (hadmits : ∀ x, rule.test.admits x = true ↔ allowed (kind.toInt x)) (field : String)
    {value : Value} (hvalue : kind.integer? value = some n) :
    rule.check field value = .pass ↔ allowed n := by
  rw [integer?_eq] at hvalue
  obtain ⟨x, hx, rfl⟩ := Option.map_eq_some_iff.mp hvalue
  rw [NumberRule.check_eq_pass_iff, ← hadmits]
  constructor
  · intro hpass
    exact hpass x hx
  · intro hx' y hy
    rwa [← Option.some.inj (hx.symm.trans hy)]

/-- A value is rejected by a test exactly if it has an integer that is not allowed. -/
theorem exists_not_admits_iff {test : NumberTest kind.family.Number} {allowed : Int → Prop}
    (hadmits : ∀ x, test.admits x = true ↔ allowed (kind.toInt x)) {value : Value} :
    (∃ x : kind.family.Number, Measure.ofValue? value = some x ∧ test.admits x = false) ↔
      ∃ n, kind.integer? value = some n ∧ ¬ allowed n := by
  rw [integer?_eq]
  constructor
  · rintro ⟨x, hx, hrejected⟩
    refine ⟨_, Option.map_eq_some_iff.mpr ⟨x, hx, rfl⟩, fun hallowed => ?_⟩
    rw [(hadmits x).mpr hallowed] at hrejected
    cases hrejected
  · rintro ⟨n, hn, hnot⟩
    obtain ⟨x, hx, rfl⟩ := Option.map_eq_some_iff.mp hn
    exact ⟨x, hx, Bool.eq_false_iff.mpr (mt (hadmits x).mp hnot)⟩

end IntegerFamily

namespace FieldSchema

variable {schema : FieldSchema} {kind : IntegerFamily} {constraint : Constraint}

/-- On a field of integers, bounds and ranges are compiled if they allow some integers. -/
theorem compiles_iff_allows (hholds : schema.field.HoldsNumbers kind.family)
    (hbounds : constraint.SetsBounds) (owner : MessageSchema) :
    (∃ check, schema.compile owner constraint = .ok check) ↔
      ∃ allowed, kind.Allows constraint allowed := by
  constructor
  · rintro ⟨check, hcheck⟩
    obtain ⟨rule, hreads, -⟩ := (compile_eq_ok_iff_reads hholds hbounds).mp hcheck
    exact IntegerFamily.exists_allows_of_reads hreads
  · rintro ⟨allowed, hallows⟩
    obtain ⟨rule, hreads, -⟩ := hallows.exists_reads
    exact ⟨_, compile_of_reads hholds owner hreads⟩

/-- **Bounds for integers are exact.**  On a field of integers a bound or a range compiles exactly
if it is made of thresholds that denote integers of 64 bits, and is refused otherwise.  Its check
passes just the values whose integers satisfy its inequalities, and on a message it reports the
places of the others. -/
theorem compile_integers (owner : MessageSchema)
    (hholds : schema.field.HoldsNumbers kind.family) (hbounds : constraint.SetsBounds) :
    ((∃ check, schema.compile owner constraint = .ok check) ↔
      ∃ allowed, kind.Allows constraint allowed) ∧
    ((∃ cause, schema.compile owner constraint = .error cause) ↔
      ∀ allowed, ¬ kind.Allows constraint allowed) ∧
    ∀ allowed, kind.Allows constraint allowed → ∃ rule : NumberCheck,
      schema.compile owner constraint = .ok (some (.number schema.field rule)) ∧
      (∀ value n, kind.integer? value = some n →
        (rule.check schema.name value = .pass ↔ allowed n)) ∧
      ∀ visit message,
        ((Check.number schema.field rule).outcome .collect visit message).Reports
          fun path reported => reported = constraint.kind ∧ ∃ value n,
            message.ValueAt schema.field path value ∧ kind.integer? value = some n ∧
              ¬ allowed n := by
  have hcompiles := compiles_iff_allows hholds hbounds owner
  refine ⟨hcompiles, ?_, fun allowed hallows => ?_⟩
  · rw [← not_exists, ← hcompiles]
    cases schema.compile owner constraint <;> simp
  obtain ⟨rule, hreads, hadmits⟩ := hallows.exists_reads
  refine ⟨kind.family.check rule, compile_of_reads hholds owner hreads, fun value n hvalue => ?_,
    fun visit message => (reports_check rule visit message).congr fun path reported => ?_⟩
  · rw [NumberFamily.check_check]
    exact IntegerFamily.check_eq_pass_iff hadmits schema.name hvalue
  · rw [hreads.kind_eq]
    refine and_congr_right fun _ => exists_congr fun value => ?_
    rw [exists_and_left, IntegerFamily.exists_not_admits_iff hadmits]

/-- The hours of a day, with a sign and blanks around the thresholds. -/
theorem compile_integers_hours : ∃ rule : NumberCheck,
    (Sample.time .int32).compile (Sample.clock .int32) (.range " [ +0 .. 24 )") =
        .ok (some (.number (Sample.time .int32).field rule)) ∧
      rule.check "time" (.int32 0) = .pass ∧ rule.check "time" (.int32 24) ≠ .pass := by
  have hholds : (Sample.time .int32).field.HoldsNumbers IntegerFamily.signed.family :=
    ⟨.inl rfl, .int32, rfl, rfl⟩
  have hzero : IsNumeral ['0'] 0 := digits?_eq_some_iff.mp rfl
  have hday : IsNumeral ['2', '4'] 24 := digits?_eq_some_iff.mp rfl
  have hbounds : (Constraint.range " [ +0 .. 24 )").SetsBounds := trivial
  have htrim : Text.trimChars " [ +0 .. 24 )".toList =
      '[' :: ([' ', '+', '0', ' '] ++ ['.', '.'] ++ [' ', '2', '4', ' '] ++ [')']) := by decide
  have hallows := @IntegerFamily.Allows.range .signed _ _ _ _ _ _ _ (.inl rfl) (.inr rfl) htrim
    ⟨.plus hzero, by decide, by decide⟩ ⟨.plain hday, by decide, by decide⟩ (by decide)
  obtain ⟨rule, hrule, hpass, -⟩ :=
    (compile_integers (Sample.clock .int32) hholds hbounds).2.2 _ hallows
  exact ⟨rule, hrule, (hpass _ 0 rfl).mpr (by decide), mt (hpass _ 24 rfl).mp (by decide)⟩

end FieldSchema

end MessageConstraints
