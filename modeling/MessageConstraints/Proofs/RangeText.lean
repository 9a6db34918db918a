import Mathlib
import MessageConstraints.Proofs.Broken

/-!
# Texts of thresholds and ranges

A threshold is a text that denotes a number in the family of numbers of its field.  A range has two
of them between brackets, on both sides of the first two points that stand together.  What is wrong
with a text that is no range is told by its shape alone (`NumberFamily.Malformed`); reading it
decides just this (`Interval.decides_read`).
-/

namespace MessageConstraints

/-! ## Results and errors -/

/-- A result is there exactly if all is good, and an error exactly if it tells what is bad. -/
structure Decides {ε α : Type} (result : Except ε α) (good : Prop) (bad : ε → Prop) : Prop where
  ok_iff : (∃ a, result = .ok a) ↔ good
  error_iff : ∀ cause, result = .error cause ↔ bad cause

namespace Decides

variable {ε α β : Type} {result : Except ε α} {good good' : Prop} {bad bad' : ε → Prop}

/-- What is good has a result, what is bad has its error, and there is nothing else. -/
theorem of_total (hgood : good → ∃ a, result = .ok a)
    (hbad : ∀ cause, bad cause → result = .error cause) (htotal : good ∨ ∃ cause, bad cause) :
    Decides result good bad where
  ok_iff := by
    refine ⟨fun ⟨a, ha⟩ => htotal.resolve_right ?_, hgood⟩
    rintro ⟨cause, hcause⟩
    cases ha.symm.trans (hbad cause hcause)
  error_iff cause := by
    refine ⟨fun herror => ?_, hbad cause⟩
    rcases htotal with hall | ⟨other, hother⟩
    · obtain ⟨a, ha⟩ := hgood hall
      cases ha.symm.trans herror
    · obtain rfl := Except.error.inj (herror.symm.trans (hbad other hother))
      exact hother

theorem ok (a : α) (hgood : good) (hbad : ∀ cause, ¬ bad cause) :
    Decides (.ok a : Except ε α) good bad :=
  ⟨iff_of_true ⟨a, rfl⟩ hgood, fun cause => iff_of_false (fun h => nomatch h) (hbad cause)⟩

theorem error (cause : ε) (hgood : ¬ good) (hbad : ∀ other, bad other ↔ other = cause) :
    Decides (.error cause : Except ε α) good bad where
  ok_iff := iff_of_false (fun ⟨_, h⟩ => nomatch h) hgood
  error_iff other := by
    rw [hbad, Except.error.injEq]
    exact eq_comm

theorem map (f : α → β) (h : Decides result good bad) : Decides (result.map f) good bad where
  ok_iff := by
    rw [← h.ok_iff]
    cases result <;> simp [Except.map]
  error_iff cause := by
    rw [← h.error_iff]
    cases result <;> simp [Except.map]

theorem congr (h : Decides result good bad) (hgood : good ↔ good')
    (hbad : ∀ cause, bad cause ↔ bad' cause) : Decides result good' bad' :=
  ⟨h.ok_iff.trans hgood, fun cause => (h.error_iff cause).trans (hbad cause)⟩

/-- What has a result has no error. -/
theorem not_bad (h : Decides result good bad) (hgood : good) (cause : ε) : ¬ bad cause := by
  obtain ⟨a, ha⟩ := h.ok_iff.mpr hgood
  intro hbad
  cases ha.symm.trans ((h.error_iff cause).mpr hbad)

end Decides

/-! ## Texts cut in two -/

namespace Text

/-- A text is cut in two at the first place where a separator stands. -/
structure Cuts (separator cs before after : List Char) : Prop where
  eq_append : cs = before ++ (separator ++ after)
  first : ∀ front, front ++ separator <+: cs → before.length ≤ front.length

variable {separator cs : List Char}

theorem splitOnce?_eq_none_iff (hne : separator ≠ []) :
    splitOnce? separator cs = none ↔ ¬ separator <:+: cs := by
  induction cs with
  | nil => simp [splitOnce?, hne]
  | cons c rest ih =>
    rw [splitOnce?, List.infix_cons_iff]
    by_cases hstarts : separator <+: c :: rest
    · rw [if_pos (List.isPrefixOf_iff_prefix.mpr hstarts)]
      simp [hstarts]
    · rw [if_neg (mt List.isPrefixOf_iff_prefix.mp hstarts), Option.map_eq_none_iff, ih]
      simp [hstarts]

/-- What a text is split into is what it is cut into. -/
theorem cuts_of_splitOnce? {before after : List Char}
    (h : splitOnce? separator cs = some (before, after)) : Cuts separator cs before after := by
  induction cs generalizing before with
  | nil => cases h
  | cons c rest ih =>
    rw [splitOnce?] at h
    split at h
    case isTrue hstarts =>
      obtain ⟨rfl, rfl⟩ := Prod.mk.inj (Option.some.inj h)
      have happend := List.prefix_iff_eq_append.mp (List.isPrefixOf_iff_prefix.mp hstarts)
      exact ⟨happend.symm, fun front _ => Nat.zero_le _⟩
    case isFalse hstarts =>
      obtain ⟨⟨front, back⟩, hsplit, heq⟩ := Option.map_eq_some_iff.mp h
      obtain ⟨rfl, rfl⟩ := Prod.mk.inj heq
      obtain ⟨happend, hfirst⟩ := ih hsplit
      refine ⟨congrArg (c :: ·) happend, fun other hother => ?_⟩
      cases other with
      | nil => exact absurd (List.isPrefixOf_iff_prefix.mpr hother) hstarts
      | cons d other =>
        obtain ⟨-, hother⟩ := List.cons_prefix_cons.mp hother
        exact Nat.succ_le_succ (hfirst other hother)

/-- A text is cut in one way only. -/
theorem Cuts.unique {before after before' after' : List Char}
    (h : Cuts separator cs before after) (h' : Cuts separator cs before' after') :
    before = before' ∧ after = after' := by
  have hprefix : before ++ separator <+: cs := ⟨after, by rw [h.eq_append, List.append_assoc]⟩
  have hprefix' : before' ++ separator <+: cs := ⟨after', by rw [h'.eq_append, List.append_assoc]⟩
  have hlength := Nat.le_antisymm (h.first before' hprefix') (h'.first before hprefix)
  obtain ⟨hbefore, hrest⟩ := List.append_inj (h.eq_append.symm.trans h'.eq_append) hlength
  exact ⟨hbefore, List.append_cancel_left hrest⟩

theorem splitOnce?_of_cuts (hne : separator ≠ []) {before after : List Char}
    (h : Cuts separator cs before after) : splitOnce? separator cs = some (before, after) := by
  cases hsplit : splitOnce? separator cs with
  | none =>
    refine absurd ?_ ((splitOnce?_eq_none_iff hne).mp hsplit)
    exact ⟨before, after, by rw [h.eq_append, List.append_assoc]⟩
  | some parts =>
    obtain ⟨rfl, rfl⟩ := (cuts_of_splitOnce? hsplit).unique h
    rfl

/-- A separator between two texts is where they are cut, if none stands or begins in the first. -/
theorem cuts_of_not_infix (hne : separator ≠ []) {before after : List Char}
    (h : ¬ separator <:+: before ++ separator.dropLast) :
    Cuts separator (before ++ (separator ++ after)) before after := by
  refine ⟨rfl, fun front hfront => ?_⟩
  by_contra hlt
  have hpos : 0 < separator.length := List.length_pos_of_ne_nil hne
  have hwhole : before ++ separator.dropLast <+: before ++ (separator ++ after) :=
    (List.prefix_append_right_inj before).mpr
      ((List.dropLast_prefix separator).trans (List.prefix_append separator after))
  have hinside : front ++ separator <+: before ++ separator.dropLast := by
    refine List.prefix_of_prefix_length_le hfront hwhole ?_
    rw [List.length_append, List.length_append, List.length_dropLast]
    omega
  exact h ((List.suffix_append front separator).isInfix.trans hinside.isInfix)

/-- Two points are where a text is cut, if there is at most one point before them and none right
before them. -/
theorem cuts_points {before after : List Char} (hcount : before.count '.' ≤ 1)
    (hlast : ∀ front, before ≠ front ++ ['.']) :
    Cuts ['.', '.'] (before ++ '.' :: '.' :: after) before after := by
  refine cuts_of_not_infix (List.cons_ne_nil _ _) ?_
  rintro ⟨front, back, heq⟩
  rcases List.eq_nil_or_concat' back with rfl | ⟨back, c, rfl⟩
  · have hends : (front ++ ['.']) ++ ['.'] = before ++ ['.'] := by simpa using heq
    exact hlast front (List.append_cancel_right hends).symm
  · have hsplit : (front ++ ['.', '.'] ++ back) ++ [c] = before ++ ['.'] := by simpa using heq
    obtain ⟨rfl, -⟩ := List.append_inj' hsplit rfl
    simp [List.count_append] at hcount
    omega

theorem cuts_points_of_not_mem {before after : List Char} (h : '.' ∉ before) :
    Cuts ['.', '.'] (before ++ '.' :: '.' :: after) before after := by
  refine cuts_points ((List.count_eq_zero_of_not_mem h).trans_le zero_le_one) ?_
  rintro front rfl
  simp at h

/-! ## Trimmed texts -/

/-- Trimming a text takes blanks from its two ends. -/
theorem exists_blanks_trimChars (cs : List Char) : ∃ before after,
    cs = before ++ (trimChars cs ++ after) ∧ (∀ c ∈ before, isBlank c = true) ∧
      ∀ c ∈ after, isBlank c = true := by
  refine ⟨cs.takeWhile isBlank, ((cs.dropWhile isBlank).reverse.takeWhile isBlank).reverse, ?_,
    fun c => List.mem_takeWhile_imp, fun c hc => List.mem_takeWhile_imp (List.mem_reverse.mp hc)⟩
  rw [trimChars, ← List.reverse_append, List.takeWhile_append_dropWhile, List.reverse_reverse,
    List.takeWhile_append_dropWhile]

/-- Trimming a text keeps all its characters that are no blanks. -/
theorem count_trimChars (cs : List Char) {c : Char} (hc : isBlank c = false) :
    (trimChars cs).count c = cs.count c := by
  obtain ⟨before, after, heq, hbefore, hafter⟩ := exists_blanks_trimChars cs
  have hnone : ∀ blanks : List Char, (∀ d ∈ blanks, isBlank d = true) → blanks.count c = 0 := by
    intro blanks hblanks
    refine List.count_eq_zero_of_not_mem fun hmem => ?_
    rw [hblanks c hmem] at hc
    cases hc
  conv_rhs => rw [heq, List.count_append, List.count_append, hnone before hbefore,
    hnone after hafter, Nat.zero_add, Nat.add_zero]

end Text

/-! ## Thresholds and ranges -/

namespace NumberFamily

/-- A text denotes a number of a family: an integer in the bounds of 64 bits, or a binary number
that compares with itself. -/
def Denotes : (family : NumberFamily) → List Char → family.Number → Prop
  | .signed => fun cs (n : Int) => signedInteger? cs = some n ∧ -2 ^ 63 ≤ n ∧ n < 2 ^ 63
  | .unsigned => fun cs (n : Nat) => unsignedInteger? cs = some n ∧ n < 2 ^ 64
  | .single => fun cs (x : Binary .single) => Binary.ofChars? .single cs = some x ∧ x ≠ .nan
  | .double => fun cs (x : Binary .double) => Binary.ofChars? .double cs = some x ∧ x ≠ .nan

/-- A text denotes some number of a family. -/
def IsThreshold (family : NumberFamily) (cs : List Char) : Prop :=
  ∃ x, family.Denotes cs x

variable {family : NumberFamily} {cs : List Char}

theorem signedWithin?_eq_some_iff {m n : Int} :
    signedWithin? 64 m = some n ↔ m = n ∧ -2 ^ 63 ≤ n ∧ n < 2 ^ 63 := by
  have hhalf : ((1 <<< (64 - 1) : Nat) : Int) = 2 ^ 63 := by decide
  simp only [signedWithin?, within?, hhalf, Option.ite_none_right_eq_some, Option.some.injEq]
  omega

theorem unsignedWithin?_eq_some_iff {m n : Nat} :
    unsignedWithin? 64 m = some n ↔ m = n ∧ n < 2 ^ 64 := by
  have hsize : 1 <<< 64 = 2 ^ 64 := by decide
  simp only [unsignedWithin?, hsize, Option.ite_none_right_eq_some, Option.some.injEq]
  omega

theorem read?_eq_some_iff {x : family.Number} :
    Measure.read? cs = some x ↔ family.Denotes cs x := by
  have hbinary : ∀ {format : BinaryFormat} {x : Binary format},
      (Binary.ofChars? format cs).filter (fun x => !x.isNaN) = some x ↔
        Binary.ofChars? format cs = some x ∧ x ≠ .nan := by
    intro format x
    rw [Option.filter_eq_some_iff]
    cases x <;> simp [Binary.isNaN]
  have hsigned : ∀ {n : Int}, (signedInteger? cs).bind (signedWithin? 64) = some n ↔
      signedInteger? cs = some n ∧ -2 ^ 63 ≤ n ∧ n < 2 ^ 63 := by
    intro n
    simp [Option.bind_eq_some_iff, signedWithin?_eq_some_iff]
  have hunsigned : ∀ {n : Nat}, (unsignedInteger? cs).bind (unsignedWithin? 64) = some n ↔
      unsignedInteger? cs = some n ∧ n < 2 ^ 64 := by
    intro n
    simp [Option.bind_eq_some_iff, unsignedWithin?_eq_some_iff]
  cases family with
  | signed => exact hsigned
  | unsigned => exact hunsigned
  | single => exact hbinary
  | double => exact hbinary

theorem read?_eq_none_iff :
    (Measure.read? cs : Option family.Number) = none ↔ ¬ family.IsThreshold cs := by
  simp only [Option.eq_none_iff_forall_ne_some, ne_eq, read?_eq_some_iff, IsThreshold, not_exists]

/-- A text is an inner part between brackets. -/
def Bracketed (cs inner : List Char) : Prop :=
  ∃ first last, (first = '[' ∨ first = '(') ∧ (last = ']' ∨ last = ')') ∧
    cs = first :: (inner ++ [last])

/-- A text consists of two thresholds in order, between brackets and on both sides of two points. -/
def IsRange (family : NumberFamily) (cs : List Char) : Prop :=
  ∃ inner before after low high, Bracketed cs inner ∧ Text.Cuts ['.', '.'] inner before after ∧
    family.Denotes (Text.trimChars before) low ∧ family.Denotes (Text.trimChars after) high ∧
    Measure.lt high low = false

/-- Why a text is no range: the first thing that is wrong with it. -/
inductive Malformed (family : NumberFamily) (cs : List Char) : RangeError → Prop
  | notOpened : (∀ rest, cs ≠ '[' :: rest ∧ cs ≠ '(' :: rest) → Malformed family cs .notOpened
  | notClosed {first : Char} {rest : List Char} :
      (first = '[' ∨ first = '(') → cs = first :: rest →
      (∀ inner, rest ≠ inner ++ [']'] ∧ rest ≠ inner ++ [')']) → Malformed family cs .notClosed
  | noSeparator {inner : List Char} : Bracketed cs inner → ¬ ['.', '.'] <:+: inner →
      Malformed family cs .noSeparator
  | low {inner before after : List Char} : Bracketed cs inner →
      Text.Cuts ['.', '.'] inner before after → ¬ family.IsThreshold (Text.trimChars before) →
      Malformed family cs (.notNumber (String.ofList (Text.trimChars before)))
  | high {inner before after : List Char} : Bracketed cs inner →
      Text.Cuts ['.', '.'] inner before after → family.IsThreshold (Text.trimChars before) →
      ¬ family.IsThreshold (Text.trimChars after) →
      Malformed family cs (.notNumber (String.ofList (Text.trimChars after)))
  | inverted {inner before after : List Char} {low high : family.Number} : Bracketed cs inner →
      Text.Cuts ['.', '.'] inner before after → family.Denotes (Text.trimChars before) low →
      family.Denotes (Text.trimChars after) high → Measure.lt high low = true →
      Malformed family cs .inverted

/-- A text is a range, or something is wrong with it. -/
theorem isRange_or_malformed (family : NumberFamily) (cs : List Char) :
    family.IsRange cs ∨ ∃ cause, family.Malformed cs cause := by
  by_cases hopened : ∀ rest, cs ≠ '[' :: rest ∧ cs ≠ '(' :: rest
  · exact Or.inr ⟨_, .notOpened hopened⟩
  obtain ⟨first, rest, hfirst, rfl⟩ : ∃ first rest, (first = '[' ∨ first = '(') ∧
      cs = first :: rest := by
    obtain ⟨rest, hrest⟩ := not_forall.mp hopened
    rcases Classical.not_and_iff_not_or_not.mp hrest with heq | heq
    · exact ⟨'[', rest, Or.inl rfl, not_not.mp heq⟩
    · exact ⟨'(', rest, Or.inr rfl, not_not.mp heq⟩
  by_cases hclosed : ∀ inner, rest ≠ inner ++ [']'] ∧ rest ≠ inner ++ [')']
  · exact Or.inr ⟨_, .notClosed hfirst rfl hclosed⟩
  obtain ⟨inner, last, hlast, rfl⟩ : ∃ inner last, (last = ']' ∨ last = ')') ∧
      rest = inner ++ [last] := by
    obtain ⟨inner, hinner⟩ := not_forall.mp hclosed
    rcases Classical.not_and_iff_not_or_not.mp hinner with heq | heq
    · exact ⟨inner, ']', Or.inl rfl, not_not.mp heq⟩
    · exact ⟨inner, ')', Or.inr rfl, not_not.mp heq⟩
  have hbrackets : Bracketed (first :: (inner ++ [last])) inner := ⟨first, last, hfirst, hlast, rfl⟩
  cases hsplit : Text.splitOnce? ['.', '.'] inner with
  | none =>
    have hnone := (Text.splitOnce?_eq_none_iff (by simp)).mp hsplit
    exact Or.inr ⟨_, .noSeparator hbrackets hnone⟩
  | some parts =>
    have hcuts := Text.cuts_of_splitOnce? hsplit
    by_cases hlow : family.IsThreshold (Text.trimChars parts.1)
    case neg => exact Or.inr ⟨_, .low hbrackets hcuts hlow⟩
    by_cases hhigh : family.IsThreshold (Text.trimChars parts.2)
    case neg => exact Or.inr ⟨_, .high hbrackets hcuts hlow hhigh⟩
    obtain ⟨low, hlow⟩ := hlow
    obtain ⟨high, hhigh⟩ := hhigh
    cases hlt : Measure.lt high low with
    | true => exact Or.inr ⟨_, .inverted hbrackets hcuts hlow hhigh hlt⟩
    | false => exact Or.inl ⟨inner, _, _, low, high, hbrackets, hcuts, hlow, hhigh, hlt⟩

end NumberFamily

namespace Interval

variable {family : NumberFamily} {source : String}

theorem readEnd_of_denotes {cs : List Char} {x : family.Number}
    (h : family.Denotes (Text.trimChars cs) x) : readEnd cs = .ok x := by
  rw [readEnd, NumberFamily.read?_eq_some_iff.mpr h]

theorem readEnd_of_not_isThreshold {cs : List Char}
    (h : ¬ family.IsThreshold (Text.trimChars cs)) :
    (readEnd cs : Except RangeError family.Number) =
      .error (.notNumber (String.ofList (Text.trimChars cs))) := by
  rw [readEnd, NumberFamily.read?_eq_none_iff.mpr h]

theorem openBracket?_of {c : Char} (h : c = '[' ∨ c = '(') :
    openBracket? c = some (decide (c = '[')) := by
  rcases h with rfl | rfl <;> rfl

theorem openBracket?_eq_none {c : Char} (h : c ≠ '[' ∧ c ≠ '(') : openBracket? c = none := by
  unfold openBracket?
  split
  · exact absurd rfl h.1
  · exact absurd rfl h.2
  · rfl

theorem closeBracket?_of {c : Char} (h : c = ']' ∨ c = ')') :
    closeBracket? c = some (decide (c = ']')) := by
  rcases h with rfl | rfl <;> rfl

theorem closeBracket?_eq_none {c : Char} (h : c ≠ ']' ∧ c ≠ ')') : closeBracket? c = none := by
  unfold closeBracket?
  split
  · exact absurd rfl h.1
  · exact absurd rfl h.2
  · rfl

theorem read_of_not_opened {α : Type} [Measure α]
    (h : ∀ rest, Text.trimChars source.toList ≠ '[' :: rest ∧
      Text.trimChars source.toList ≠ '(' :: rest) :
    (read source : Except RangeError (Interval α)) = .error .notOpened := by
  unfold read
  cases heq : Text.trimChars source.toList with
  | nil => rfl
  | cons first rest =>
    have hnone : openBracket? first = none := by
      refine openBracket?_eq_none ⟨?_, ?_⟩
      · rintro rfl
        exact (h rest).1 heq
      · rintro rfl
        exact (h rest).2 heq
    simp only [pure_bind, hnone]
    rfl

theorem read_of_not_closed {α : Type} [Measure α] {first : Char} {rest : List Char}
    (hfirst : first = '[' ∨ first = '(') (heq : Text.trimChars source.toList = first :: rest)
    (h : ∀ inner, rest ≠ inner ++ [']'] ∧ rest ≠ inner ++ [')']) :
    (read source : Except RangeError (Interval α)) = .error .notClosed := by
  have hopened := openBracket?_of hfirst
  unfold read
  rcases List.eq_nil_or_concat' rest with rfl | ⟨inner, last, rfl⟩
  · simp only [heq, pure_bind, hopened, List.getLast?_nil]
    rfl
  · have hnone : closeBracket? last = none := by
      refine closeBracket?_eq_none ⟨?_, ?_⟩
      · rintro rfl
        exact (h inner).1 rfl
      · rintro rfl
        exact (h inner).2 rfl
    simp only [heq, pure_bind, hopened, List.getLast?_concat, hnone]
    rfl

/-- A text between brackets is split at two points and read from its ends, and square brackets
include what they stand beside. -/
theorem read_of_brackets {α : Type} [Measure α] {first last : Char} {inner : List Char}
    (hfirst : first = '[' ∨ first = '(') (hlast : last = ']' ∨ last = ')')
    (heq : Text.trimChars source.toList = first :: (inner ++ [last])) :
    (read source : Except RangeError (Interval α)) =
      match Text.splitOnce? ['.', '.'] inner with
      | none => .error .noSeparator
      | some (before, after) => (readEnd before).bind fun low => (readEnd after).bind fun high =>
        if Measure.lt high low then .error .inverted
        else .ok ⟨⟨low, decide (first = '[')⟩, ⟨high, decide (last = ']')⟩⟩ := by
  unfold read
  simp only [heq, pure_bind, openBracket?_of hfirst, List.getLast?_concat, closeBracket?_of hlast,
    List.dropLast_concat]
  cases Text.splitOnce? ['.', '.'] inner with
  | none => rfl
  | some parts =>
    simp only [bind_pure_comp]
    rfl

theorem read_of_not_infix {α : Type} [Measure α] {inner : List Char}
    (h : NumberFamily.Bracketed (Text.trimChars source.toList) inner)
    (hnone : ¬ ['.', '.'] <:+: inner) :
    (read source : Except RangeError (Interval α)) = .error .noSeparator := by
  obtain ⟨first, last, hfirst, hlast, heq⟩ := h
  rw [read_of_brackets hfirst hlast heq,
    (Text.splitOnce?_eq_none_iff (List.cons_ne_nil _ _)).mpr hnone]

/-- A text between brackets that is cut at two points is read from its ends, the lower one first. -/
theorem read_of_cuts {α : Type} [Measure α] {first last : Char} {inner before after : List Char}
    (hfirst : first = '[' ∨ first = '(') (hlast : last = ']' ∨ last = ')')
    (heq : Text.trimChars source.toList = first :: (inner ++ [last]))
    (hcuts : Text.Cuts ['.', '.'] inner before after) :
    (read source : Except RangeError (Interval α)) =
      (readEnd before).bind fun low => (readEnd after).bind fun high =>
        if Measure.lt high low then .error .inverted
        else .ok ⟨⟨low, decide (first = '[')⟩, ⟨high, decide (last = ']')⟩⟩ := by
  rw [read_of_brackets hfirst hlast heq, Text.splitOnce?_of_cuts (List.cons_ne_nil _ _) hcuts]

/-- Two thresholds in order, between brackets and on both sides of two points, are the ends of an
interval. -/
theorem read_of_denotes {first last : Char} {inner before after : List Char}
    {low high : family.Number} (hfirst : first = '[' ∨ first = '(')
    (hlast : last = ']' ∨ last = ')')
    (heq : Text.trimChars source.toList = first :: (inner ++ [last]))
    (hcuts : Text.Cuts ['.', '.'] inner before after)
    (hlow : family.Denotes (Text.trimChars before) low)
    (hhigh : family.Denotes (Text.trimChars after) high) (hle : Measure.lt high low = false) :
    (read source : Except RangeError (Interval family.Number)) =
      .ok ⟨⟨low, decide (first = '[')⟩, ⟨high, decide (last = ']')⟩⟩ := by
  rw [read_of_cuts hfirst hlast heq hcuts, readEnd_of_denotes hlow, readEnd_of_denotes hhigh]
  simp [Except.bind, hle]

/-- Reading a range decides whether the text is one. -/
theorem decides_read (family : NumberFamily) (source : String) :
    Decides (read source : Except RangeError (Interval family.Number))
      (family.IsRange (Text.trimChars source.toList))
      (family.Malformed (Text.trimChars source.toList)) := by
  refine .of_total ?_ ?_ (NumberFamily.isRange_or_malformed family _)
  · rintro ⟨inner, before, after, low, high, ⟨first, last, hfirst, hlast, heq⟩, hcuts, hlow, hhigh,
      hle⟩
    exact ⟨_, read_of_denotes hfirst hlast heq hcuts hlow hhigh hle⟩
  · intro cause hcause
    cases hcause with
    | notOpened h => exact read_of_not_opened h
    | notClosed hfirst heq h => exact read_of_not_closed hfirst heq h
    | noSeparator hbrackets h => exact read_of_not_infix hbrackets h
    | low hbrackets hcuts hlow =>
      obtain ⟨first, last, hfirst, hlast, heq⟩ := hbrackets
      rw [read_of_cuts hfirst hlast heq hcuts, readEnd_of_not_isThreshold hlow]
      rfl
    | high hbrackets hcuts hlow hhigh =>
      obtain ⟨first, last, hfirst, hlast, heq⟩ := hbrackets
      obtain ⟨low, hlow⟩ := hlow
      rw [read_of_cuts hfirst hlast heq hcuts, readEnd_of_denotes hlow,
        readEnd_of_not_isThreshold hhigh]
      rfl
    | inverted hbrackets hcuts hlow hhigh hlt =>
      obtain ⟨first, last, hfirst, hlast, heq⟩ := hbrackets
      rw [read_of_cuts hfirst hlast heq hcuts, readEnd_of_denotes hlow, readEnd_of_denotes hhigh]
      exact if_pos hlt

end Interval

end MessageConstraints
