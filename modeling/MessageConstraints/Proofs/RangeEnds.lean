import MessageConstraints.Proofs.Integers

/-!
# Ranges and the bounds at their ends

A range is written from a lower and an upper threshold, and is read by cutting it at the first two
points that stand together.  A threshold may end in a point of its own: there are then three points
in a row, the lower threshold loses its last one, which changes nothing for it, and the upper
threshold is read with a point in front of it (`Interval.shifted`).  A range compiles exactly if the
upper threshold is still one after this, and is still no less than the lower one, and it then passes
what both bounds pass (`FieldSchema.range_of_bounds`).
-/

namespace MessageConstraints

/-! ## Fractions in text -/

namespace Decimal

/-- A text spells a decimal fraction: digits, among them an optional point, and an exponent. -/
inductive Spells : List Char → Decimal → Prop
  | whole {whole ending : List Char} {n : Nat} {e : Int} :
      IsNumeral whole n → exponent? ending = some e → Spells (whole ++ ending) ⟨n, e⟩
  | point {whole places ending : List Char} {n : Nat} {e : Int} :
      IsNumeral (whole ++ places) n → exponent? ending = some e →
      Spells (whole ++ '.' :: (places ++ ending)) ⟨n, e - places.length⟩

theorem spells_of_ofChars? {cs : List Char} {d : Decimal} (h : ofChars? cs = some d) :
    Spells cs d := by
  have hcs : cs.takeWhile Char.isDigit ++ cs.dropWhile Char.isDigit = cs :=
    List.takeWhile_append_dropWhile
  unfold ofChars? at h
  generalize cs.takeWhile Char.isDigit = whole at h hcs
  generalize cs.dropWhile Char.isDigit = rest at h hcs
  subst hcs
  dsimp only at h
  split at h
  case h_1 coefficient exponent hcoefficient hexponent =>
    obtain rfl := Option.some.inj h
    have hnumeral := digits?_eq_some_iff.mp hcoefficient
    clear hcoefficient h
    split at hnumeral
    case h_1 after =>
      have hafter : after.takeWhile Char.isDigit ++ after.dropWhile Char.isDigit = after :=
        List.takeWhile_append_dropWhile
      conv => lhs; rw [← hafter]
      exact .point hnumeral hexponent
    case h_2 =>
      simpa using Spells.whole (by simpa using hnumeral) hexponent
  case h_2 => cases h

theorem ofChars?_of_isNumeral {cs : List Char} {n : Nat} (h : IsNumeral cs n) :
    ofChars? cs = some ⟨n, 0⟩ := by
  have hall : ∀ c ∈ cs, c.isDigit = true := fun c hc => isDigit_iff.mpr (h.digit c hc)
  have hwhole : cs.takeWhile Char.isDigit = cs := List.takeWhile_eq_self_iff.mpr hall
  have hrest : cs.dropWhile Char.isDigit = [] := List.dropWhile_eq_nil_iff.mpr hall
  simp [ofChars?, hwhole, hrest, digits?_eq_some_iff.mpr h, exponent?]

theorem not_mem_point_of_exponent? {cs : List Char} {e : Int} (h : exponent? cs = some e) :
    '.' ∉ cs := by
  cases cs with
  | nil => simp
  | cons c rest =>
    rw [exponent?, Option.ite_none_right_eq_some] at h
    obtain ⟨hc, hrest⟩ := h
    have hletter : '.' ≠ c := by
      rintro rfl
      exact absurd hc (by decide)
    have hnot := (IntegerFamily.signedInteger?_eq_some_iff.mp hrest).not_mem_point
    exact fun hmem => (List.mem_cons.mp hmem).elim hletter hnot

namespace Spells

variable {cs : List Char} {d : Decimal}

/-- A fraction has one point at most. -/
theorem count_point_le (h : Spells cs d) : cs.count '.' ≤ 1 := by
  have hnone : ∀ {cs : List Char}, '.' ∉ cs → cs.count '.' = 0 := List.count_eq_zero_of_not_mem
  cases h with
  | whole hnumeral hexponent =>
    rw [List.count_append, hnone (hnumeral.not_mem (by decide)),
      hnone (not_mem_point_of_exponent? hexponent)]
    omega
  | point hnumeral hexponent =>
    have hdigits := hnone (hnumeral.not_mem (by decide))
    rw [List.count_append] at hdigits
    rw [List.count_append, List.count_cons_self, List.count_append,
      hnone (not_mem_point_of_exponent? hexponent)]
    omega

/-- What stands before a last point is digits, and spells the same fraction. -/
theorem isNumeral_of_point (h : Spells (cs ++ ['.']) d) : ∃ n, IsNumeral cs n ∧ d = ⟨n, 0⟩ := by
  generalize hcs : cs ++ ['.'] = whole at h
  cases h with
  | whole hnumeral hexponent =>
    have hmem : '.' ∈ cs ++ ['.'] := by simp
    rw [hcs, List.mem_append] at hmem
    exact (hmem.elim (hnumeral.not_mem (by decide)) (not_mem_point_of_exponent? hexponent)).elim
  | @point whole places ending n e hnumeral hexponent =>
    -- A character after the point would be the last one, and no point.
    rcases List.eq_nil_or_concat' (places ++ ending) with hnil | ⟨front, last, hlast⟩
    · obtain ⟨rfl, rfl⟩ := List.append_eq_nil_iff.mp hnil
      obtain rfl := List.append_cancel_right hcs
      obtain rfl := Option.some.inj hexponent
      exact ⟨n, by simpa using hnumeral, rfl⟩
    · rw [hlast, ← List.cons_append, ← List.append_assoc] at hcs
      obtain rfl : '.' = last := by simpa using (List.append_inj' hcs rfl).2
      have hmem : '.' ∈ places ++ ending := by simp [hlast]
      have hplaces : '.' ∉ places := fun hmem =>
        hnumeral.not_mem (by decide) (List.mem_append_right whole hmem)
      exact ((List.mem_append.mp hmem).elim hplaces (not_mem_point_of_exponent? hexponent)).elim

end Spells

end Decimal

/-! ## Binary numbers in text -/

namespace Binary

variable {format : BinaryFormat} {cs : List Char} {x : Binary format}

/-- A text is one of the words that are read as numbers. -/
def IsWord (cs : List Char) : Prop :=
  String.ofList (cs.map Char.toLower) = "nan" ∨ String.ofList (cs.map Char.toLower) = "inf" ∨
    String.ofList (cs.map Char.toLower) = "infinity"

theorem IsWord.toLower_mem (h : IsWord cs) {c : Char} (hc : c ∈ cs) :
    c.toLower ∈ ['n', 'a', 'i', 'f', 't', 'y'] := by
  have hmem : c.toLower ∈ cs.map Char.toLower := List.mem_map_of_mem hc
  rcases h with h | h | h
  all_goals
    rw [← String.toList_inj, String.toList_ofList] at h
    rw [h] at hmem
    revert hmem
    generalize c.toLower = d
    simp
    tauto

theorem not_isWord_of_mem_point (h : '.' ∈ cs) : ¬ IsWord cs :=
  fun hword => absurd (hword.toLower_mem h) (by decide)

theorem toLower_of_digit {c : Char} (h : '0' ≤ c ∧ c ≤ '9') : c.toLower = c := by
  have hle : c.toNat ≤ 57 := h.2
  unfold Char.toLower
  rw [dif_neg]
  intro hcapital
  have hge : 65 ≤ c.toNat := hcapital.1
  omega

theorem not_isWord_of_isNumeral {n : Nat} (h : IsNumeral cs n) : ¬ IsWord cs := by
  obtain ⟨c, rest, rfl⟩ := List.exists_cons_of_ne_nil h.ne_nil
  intro hword
  have hdigit := h.digit c List.mem_cons_self
  have hletter := hword.toLower_mem List.mem_cons_self
  rw [toLower_of_digit hdigit] at hletter
  simp only [List.mem_cons, List.not_mem_nil, or_false] at hletter
  rcases hletter with rfl | rfl | rfl | rfl | rfl | rfl <;> exact absurd hdigit (by decide)

theorem ofChars?_of_not_isWord (h : ¬ IsWord (splitSign cs).2) :
    ofChars? format cs = (Decimal.ofChars? (splitSign cs).2).map fun d =>
      ofDecimal format (splitSign cs).1 d.coefficient d.scale := by
  unfold ofChars?
  simp only [IsWord, not_or] at h
  simp [h]

/-- A sign is at most one character, and no point. -/
theorem exists_sign (cs : List Char) : ∃ sign : List Char, cs = sign ++ (splitSign cs).2 ∧
    ∀ c ∈ sign, c = '+' ∨ c = '-' := by
  unfold splitSign
  split
  · exact ⟨['-'], rfl, by simp⟩
  · exact ⟨['+'], rfl, by simp⟩
  · exact ⟨[], rfl, by simp⟩

theorem splitSign_append_point (cs : List Char) :
    splitSign (cs ++ ['.']) = ((splitSign cs).1, (splitSign cs).2 ++ ['.']) := by
  cases cs with
  | nil => rfl
  | cons c rest =>
    by_cases hminus : c = '-'
    · subst hminus; rfl
    by_cases hplus : c = '+'
    · subst hplus; rfl
    simp [splitSign, hminus, hplus]

/-- A number has one point at most. -/
theorem count_point_le (h : ofChars? format cs = some x) : cs.count '.' ≤ 1 := by
  obtain ⟨sign, hcs, hsign⟩ := exists_sign cs
  have hnone : sign.count '.' = 0 :=
    List.count_eq_zero_of_not_mem fun hmem => absurd (hsign '.' hmem) (by decide)
  have hcount : cs.count '.' = (splitSign cs).2.count '.' := by
    conv_lhs => rw [hcs, List.count_append, hnone, Nat.zero_add]
  rw [hcount]
  by_cases hpoint : '.' ∈ (splitSign cs).2
  · rw [ofChars?_of_not_isWord (not_isWord_of_mem_point hpoint)] at h
    obtain ⟨d, hd, -⟩ := Option.map_eq_some_iff.mp h
    exact (Decimal.spells_of_ofChars? hd).count_point_le
  · rw [List.count_eq_zero_of_not_mem hpoint]
    omega

/-- A last point changes nothing, and what stands before it is digits after an optional sign. -/
theorem ofChars?_of_point (h : ofChars? format (cs ++ ['.']) = some x) :
    ofChars? format cs = some x ∧ ∃ n, IsNumeral (splitSign cs).2 n := by
  have hpoint : '.' ∈ (splitSign (cs ++ ['.'])).2 := by simp [splitSign_append_point]
  rw [ofChars?_of_not_isWord (not_isWord_of_mem_point hpoint), splitSign_append_point] at h
  obtain ⟨d, hd, rfl⟩ := Option.map_eq_some_iff.mp h
  obtain ⟨n, hnumeral, rfl⟩ := (Decimal.spells_of_ofChars? hd).isNumeral_of_point
  refine ⟨?_, n, hnumeral⟩
  rw [ofChars?_of_not_isWord (not_isWord_of_isNumeral hnumeral),
    Decimal.ofChars?_of_isNumeral hnumeral]
  rfl

end Binary

/-! ## Thresholds that end in a point -/

theorem Text.isBlank_of_digit {c : Char} (h : '0' ≤ c ∧ c ≤ '9') : isBlank c = false := by
  have hlow : 48 ≤ c.toNat := h.1
  have hhigh : c.toNat ≤ 57 := h.2
  simp [isBlank]
  omega

/-- There are no blanks in a numeral after an optional sign. -/
theorem IsNumeral.isBlank_eq_false {cs : List Char} {n : Nat}
    (h : IsNumeral (splitSign cs).2 n) : ∀ c ∈ cs, Text.isBlank c = false := by
  obtain ⟨sign, hcs, hsign⟩ := Binary.exists_sign cs
  intro c hc
  rw [hcs, List.mem_append] at hc
  rcases hc with hc | hc
  · rcases hsign c hc with rfl | rfl <;> decide
  · exact Text.isBlank_of_digit (h.digit c hc)

/-- Trimming takes nothing away at the end of a text that ends in a point. -/
theorem Text.trimChars_append_point (cs : List Char) :
    trimChars (cs ++ ['.']) = cs.dropWhile isBlank ++ ['.'] := by
  have hpoint : isBlank '.' = false := by decide
  have hfront : (cs ++ ['.']).dropWhile isBlank = cs.dropWhile isBlank ++ ['.'] := by
    induction cs with
    | nil => simp [hpoint]
    | cons c rest ih =>
      cases hc : isBlank c <;> simp [hc, ih]
  simp [trimChars, hfront, hpoint]

namespace NumberFamily

variable {family : NumberFamily} {cs : List Char} {x : family.Number}

/-- A text denotes one number. -/
theorem Denotes.unique {y : family.Number} (h : family.Denotes cs x) (h' : family.Denotes cs y) :
    x = y :=
  Option.some.inj ((read?_eq_some_iff.mpr h).symm.trans (read?_eq_some_iff.mpr h'))

/-- A threshold has one point at most. -/
theorem Denotes.count_point_le (h : family.Denotes cs x) : cs.count '.' ≤ 1 := by
  have hinteger : ∀ {kind : IntegerFamily} {n : Int}, kind.Spells cs n → cs.count '.' ≤ 1 := by
    intro kind n hspells
    rw [List.count_eq_zero_of_not_mem hspells.not_mem_point]
    omega
  cases family with
  | signed => exact hinteger (IntegerFamily.signedInteger?_eq_some_iff.mp h.1)
  | unsigned => exact hinteger (IntegerFamily.unsignedInteger?_eq_some_iff.mp h.1)
  | single => exact Binary.count_point_le h.1
  | double => exact Binary.count_point_le h.1

/-- A threshold denotes the same number without a point at its end. -/
theorem Denotes.of_point (h : family.Denotes (cs ++ ['.']) x) :
    family.Denotes cs x ∧ ∀ c ∈ cs, Text.isBlank c = false := by
  have hinteger : ∀ {kind : IntegerFamily} {n : Int}, ¬ kind.Spells (cs ++ ['.']) n :=
    fun hspells => hspells.not_mem_point (by simp)
  have hbinary : ∀ {format : BinaryFormat} {x : Binary format},
      Binary.ofChars? format (cs ++ ['.']) = some x ∧ x ≠ .nan →
        (Binary.ofChars? format cs = some x ∧ x ≠ .nan) ∧ ∀ c ∈ cs, Text.isBlank c = false := by
    rintro format x ⟨hread, hx⟩
    obtain ⟨hread, n, hnumeral⟩ := Binary.ofChars?_of_point hread
    exact ⟨⟨hread, hx⟩, hnumeral.isBlank_eq_false⟩
  cases family with
  | signed => exact (hinteger (IntegerFamily.signedInteger?_eq_some_iff.mp h.1)).elim
  | unsigned => exact (hinteger (IntegerFamily.unsignedInteger?_eq_some_iff.mp h.1)).elim
  | single => exact hbinary h
  | double => exact hbinary h

/-- A threshold after blanks denotes the same number without a point at its end. -/
theorem Denotes.trimChars_of_point (h : family.Denotes (Text.trimChars (cs ++ ['.'])) x) :
    family.Denotes (Text.trimChars cs) x := by
  rw [Text.trimChars_append_point] at h
  obtain ⟨hdenotes, hblank⟩ := h.of_point
  have hend : (cs.dropWhile Text.isBlank).reverse.dropWhile Text.isBlank =
      (cs.dropWhile Text.isBlank).reverse := by
    refine List.dropWhile_eq_self_iff.mpr fun hpos => ?_
    rw [hblank _ (List.mem_reverse.mp (List.getElem_mem hpos))]
    exact Bool.false_ne_true
  rwa [Text.trimChars, hend, List.reverse_reverse]

end NumberFamily

/-! ## Ranges that are made of bounds -/

namespace Interval

/-- The text of a range with two thresholds between brackets. -/
def written (first last : Char) (low high : String) : String :=
  String.singleton first ++ low ++ ".." ++ high ++ String.singleton last

/-- The upper threshold as it is read in a range: a point at the end of the lower one goes to it. -/
def shifted (low high : String) : String :=
  if low.toList.getLast? = some '.' then "." ++ high else high

variable {family : NumberFamily} {first last : Char} {low high : String}

theorem trimChars_written (hfirst : first = '[' ∨ first = '(') (hlast : last = ']' ∨ last = ')')
    (low high : String) :
    Text.trimChars (written first last low high).toList =
      first :: (low.toList ++ '.' :: '.' :: high.toList ++ [last]) := by
  have hopened : Text.isBlank first = false := by rcases hfirst with rfl | rfl <;> rfl
  have hclosed : Text.isBlank last = false := by rcases hlast with rfl | rfl <;> rfl
  simp [written, Text.trimChars, hopened, hclosed]

/-- A range is cut into its lower threshold, but for a point at its end, and the upper one. -/
theorem exists_cuts {x : family.Number} (hlow : family.Denotes (Text.trimChars low.toList) x)
    (high : String) :
    ∃ before, Text.Cuts ['.', '.'] (low.toList ++ '.' :: '.' :: high.toList) before
        (shifted low high).toList ∧ family.Denotes (Text.trimChars before) x := by
  have hcount : low.toList.count '.' ≤ 1 := by
    rw [← Text.count_trimChars low.toList (by decide)]
    exact hlow.count_point_le
  unfold shifted
  split
  case isTrue hlast =>
    obtain ⟨front, hfront⟩ := List.getLast?_eq_some_iff.mp hlast
    rw [hfront] at hlow hcount ⊢
    have hpoint : '.' ∉ front := by
      rw [List.count_append, List.count_singleton_self] at hcount
      exact List.count_eq_zero.mp (by omega)
    refine ⟨front, ?_, hlow.trimChars_of_point⟩
    simpa using Text.cuts_points_of_not_mem hpoint
  case isFalse hlast =>
    refine ⟨low.toList, Text.cuts_points hcount fun front hfront => hlast ?_, hlow⟩
    rw [hfront, List.getLast?_concat]

end Interval

/-- The rule that a range with two thresholds is read as. -/
theorem NumberFamily.reads_written_iff {family : NumberFamily} {first last : Char}
    (hfirst : first = '[' ∨ first = '(') (hlast : last = ']' ∨ last = ')') {low high : String}
    {x : family.Number} (hlow : family.Denotes (Text.trimChars low.toList) x)
    {rule : NumberRule family.Number} :
    family.Reads (.range (Interval.written first last low high)) rule ↔
      ∃ y, family.Denotes (Text.trimChars (Interval.shifted low high).toList) y ∧
        Measure.lt y x = false ∧
          rule = ⟨.range ⟨⟨x, !decide (first = '(')⟩, ⟨y, !decide (last = ')')⟩⟩,
            Text.trim (Interval.written first last low high), none⟩ := by
  have hopened : decide (first = '[') = !decide (first = '(') := by
    rcases hfirst with rfl | rfl <;> rfl
  have hclosed : decide (last = ']') = !decide (last = ')') := by
    rcases hlast with rfl | rfl <;> rfl
  obtain ⟨before, hcuts, hbefore⟩ := Interval.exists_cuts hlow high
  rw [reads_range_iff hfirst hlast (Interval.trimChars_written hfirst hlast low high) hcuts,
    hopened, hclosed]
  constructor
  · rintro ⟨x', y, hx', hy, hle, rfl⟩
    obtain rfl := hx'.unique hbefore
    exact ⟨y, hy, hle, rfl⟩
  · rintro ⟨y, hy, hle, rfl⟩
    exact ⟨x, y, hbefore, hy, hle, rfl⟩

namespace FieldSchema

/-- **A range means the same as the bounds at its ends**, the upper one being read with the point
that the lower one may end in.  The range compiles exactly if this upper threshold is no less than
the lower one, both bounds compile as well then, and the range passes what both of them pass. -/
theorem range_of_bounds {schema : FieldSchema} (owner : MessageSchema)
    {family : NumberFamily} (hholds : schema.field.HoldsNumbers family) {first last : Char}
    (hfirst : first = '[' ∨ first = '(') (hlast : last = ']' ∨ last = ')') {low high : String}
    {x : family.Number} (hlow : family.Denotes (Text.trimChars low.toList) x) :
    ((∃ check, schema.compile owner (.range (Interval.written first last low high)) = .ok check) ↔
      ∃ y, family.Denotes (Text.trimChars (Interval.shifted low high).toList) y ∧
        Measure.lt y x = false) ∧
    ∀ check, schema.compile owner (.range (Interval.written first last low high)) = .ok check →
      ∃ range min max : NumberCheck, check = some (.number schema.field range) ∧
        schema.compile owner (.min ⟨low, first = '(', none⟩) =
          .ok (some (.number schema.field min)) ∧
        schema.compile owner (.max ⟨Interval.shifted low high, last = ')', none⟩) =
          .ok (some (.number schema.field max)) ∧
        ∀ value, range.check schema.name value = .pass ↔
          min.check schema.name value = .pass ∧ max.check schema.name value = .pass := by
  have hbounds : (Constraint.range (Interval.written first last low high)).SetsBounds := trivial
  constructor
  · constructor
    · rintro ⟨check, hcheck⟩
      obtain ⟨rule, hreads, -⟩ := (compile_eq_ok_iff_reads hholds hbounds).mp hcheck
      obtain ⟨y, hy, hle, -⟩ := (NumberFamily.reads_written_iff hfirst hlast hlow).mp hreads
      exact ⟨y, hy, hle⟩
    · rintro ⟨y, hy, hle⟩
      have hreads := (NumberFamily.reads_written_iff hfirst hlast hlow).mpr ⟨y, hy, hle, rfl⟩
      exact ⟨_, compile_of_reads hholds owner hreads⟩
  · intro check hcheck
    obtain ⟨rule, hreads, rfl⟩ := (compile_eq_ok_iff_reads hholds hbounds).mp hcheck
    obtain ⟨y, hy, hle, rfl⟩ := (NumberFamily.reads_written_iff hfirst hlast hlow).mp hreads
    refine ⟨_, _, _, rfl, compile_of_reads hholds owner (.min hlow),
      compile_of_reads hholds owner (.max hy), fun value => ?_⟩
    simp only [NumberFamily.check_check, NumberRule.check_eq_pass_iff, NumberTest.admits,
      Interval.contains, Bool.and_eq_true, imp_and, forall_and]

/-- An upper threshold may end in a point. -/
theorem range_of_bounds_halfDay : ∃ range min max : NumberCheck,
    (Sample.time .double).compile (Sample.clock .double) (.range "(0.0..12.]") =
        .ok (some (.number (Sample.time .double).field range)) ∧
      (Sample.time .double).compile (Sample.clock .double) (.min ⟨"0.0", true, none⟩) =
        .ok (some (.number (Sample.time .double).field min)) ∧
      (Sample.time .double).compile (Sample.clock .double) (.max ⟨"12.", false, none⟩) =
        .ok (some (.number (Sample.time .double).field max)) ∧
      ∀ value, range.check "time" value = .pass ↔
        min.check "time" value = .pass ∧ max.check "time" value = .pass := by
  have hholds : (Sample.time .double).field.HoldsNumbers .double :=
    ⟨.inl rfl, .double, rfl, rfl⟩
  have hlow : NumberFamily.double.Denotes (Text.trimChars "0.0".toList) (Binary.ofInt .double 0) :=
    ⟨by decide, by decide⟩
  have hhigh : NumberFamily.double.Denotes (Text.trimChars "12.".toList)
      (Binary.ofInt .double 12) :=
    ⟨by decide, by decide⟩
  have hordered : Measure.lt (Binary.ofInt .double 12) (Binary.ofInt .double 0) = false := by decide
  obtain ⟨hcompiles, hmeaning⟩ :=
    range_of_bounds (Sample.clock .double) hholds (Or.inr rfl : '(' = '[' ∨ '(' = '(')
      (Or.inl rfl : ']' = ']' ∨ ']' = ')') hlow
  obtain ⟨check, hcheck⟩ := hcompiles.mpr ⟨_, hhigh, hordered⟩
  obtain ⟨range, min, max, rfl, hmin, hmax, hpass⟩ := hmeaning check hcheck
  exact ⟨range, min, max, hcheck, hmin, hmax, hpass⟩

/-- Both bounds are accepted and in order, but their range is refused: the point at the end of the
lower one goes to the upper one, which is no number with it. -/
theorem range_refused_of_point : ∃ x y : NumberFamily.double.Number,
    NumberFamily.double.Denotes (Text.trimChars "-9.".toList) x ∧
      NumberFamily.double.Denotes (Text.trimChars "-5".toList) y ∧ Measure.lt y x = false ∧
      (∃ min, (Sample.time .double).compile (Sample.clock .double) (.min ⟨"-9.", false, none⟩) =
        .ok (some min)) ∧
      (∃ max, (Sample.time .double).compile (Sample.clock .double) (.max ⟨"-5", false, none⟩) =
        .ok (some max)) ∧
      (Sample.time .double).compile (Sample.clock .double)
          (.range (Interval.written '[' ']' "-9." "-5")) =
        .error (.malformedRange "time" "[-9...-5]" (.notNumber ".-5")) := by
  have hlow : NumberFamily.double.Denotes (Text.trimChars "-9.".toList)
      (Binary.ofInt .double (-9)) := ⟨by decide, by decide⟩
  have hhigh : NumberFamily.double.Denotes (Text.trimChars "-5".toList)
      (Binary.ofInt .double (-5)) := ⟨by decide, by decide⟩
  have hholds : (Sample.time .double).field.HoldsNumbers .double :=
    ⟨.inl rfl, .double, rfl, rfl⟩
  refine ⟨_, _, hlow, hhigh, by decide, ⟨_, compile_of_reads hholds _ (.min hlow)⟩,
    ⟨_, compile_of_reads hholds _ (.max hhigh)⟩, rfl⟩

end FieldSchema

end MessageConstraints
