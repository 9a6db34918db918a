import Mathlib.Algebra.Field.Rat
import Mathlib.Data.List.Forall2
import Mathlib.Data.Nat.Find
import Mathlib.Tactic.Common
import MessageConstraints.Check.Basic

/-!
# Duplicates in lists

The rule on duplicates goes through a list once, with a table of what it has seen.  Two elements
have the same entry in this table exactly if they are equal (`Value.duplicates_iff`): integers of
both widths as numbers, and binary numbers by what they are worth, so that the two zeros are equal
and what is no number is equal to nothing.  What carries the proofs is that the table always has the
first positions of what comes before (`Check.Recalls`).  It follows that the elements which are
found are those with an equal one before them, each with the position of the first such
(`Check.findRepeats_collect`), and that of these only the first is found where the rule ends at the
first violation (`Check.findRepeats_failFast`).
-/

namespace MessageConstraints

/-- Positions in a list ascend. -/
theorem pairwise_zipIdx {α : Type} (items : List α) :
    items.zipIdx.Pairwise fun a b => a.2 < b.2 := by
  rw [List.pairwise_iff_getElem]
  intro i j hi hj hij
  simpa using hij

/-! ## What numbers are worth -/

namespace Binary

variable {format : BinaryFormat} {x y : Binary format}

theorem steps_eq (negative : Bool) (mantissa : Nat) (exponent floor : Int) :
    steps negative mantissa exponent floor =
      (if negative then -(mantissa : Int) else mantissa) * 2 ^ (exponent - floor).toNat := by
  cases negative <;> simp [steps, Nat.shiftLeft_eq, -Int.natCast_shiftLeft]

/-- A number is worth its steps, whatever their size. -/
theorem ratio_eq_steps (negative : Bool) (mantissa : Nat) {exponent floor : Int}
    (h : floor ≤ exponent) :
    ratio negative mantissa exponent = steps negative mantissa exponent floor * 2 ^ floor := by
  have hpow : (2 : Rat) ^ exponent = 2 ^ (exponent - floor).toNat * 2 ^ floor := by
    rw [← Rat.zpow_natCast, ← Rat.zpow_add (by decide)]
    congr 1
    omega
  rw [ratio, hpow, steps_eq, Rat.intCast_mul, Rat.intCast_pow, ← Rat.mul_assoc]
  rfl

theorem ratio_eq_iff {n₁ n₂ : Bool} {m₁ m₂ : Nat} {e₁ e₂ : Int} :
    ratio n₁ m₁ e₁ = ratio n₂ m₂ e₂ ↔
      steps n₁ m₁ e₁ (min e₁ e₂) = steps n₂ m₂ e₂ (min e₁ e₂) := by
  have hstep : (2 : Rat) ^ min e₁ e₂ ≠ 0 := Rat.ne_of_gt (Rat.zpow_pos (by decide))
  rw [ratio_eq_steps n₁ m₁ (Int.min_le_left e₁ e₂), ratio_eq_steps n₂ m₂ (Int.min_le_right e₁ e₂),
    mul_left_inj' hstep, Rat.intCast_inj]

/-- Numbers are equal exactly if they are worth the same. -/
theorem same_iff :
    x.same y = true ↔ ∃ worth, x.worth? = some worth ∧ y.worth? = some worth := by
  cases x with
  | nan => simp [same, compare?, worth?]
  | infinite a =>
    cases y with
    | infinite b => cases a <;> cases b <;> simp [same, compare?, worth?]
    | _ => cases a <;> simp [same, compare?, worth?]
  | finite n₁ m₁ e₁ =>
    cases y with
    | nan => simp [same, compare?, worth?]
    | infinite b => cases b <;> simp [same, compare?, worth?]
    | finite n₂ m₂ e₂ =>
      have hsame : (finite n₁ m₁ e₁ : Binary format).same (finite n₂ m₂ e₂) = true ↔
          ratio n₁ m₁ e₁ = ratio n₂ m₂ e₂ := by
        rw [ratio_eq_iff]
        simp [same, compare?]
      rw [hsame]
      simp [worth?, eq_comm]

end Binary

/-! ## Equal elements -/

namespace Value

variable {a b c : Value}

/-- **Elements are recognised exactly if they are equal.** -/
theorem duplicates_iff : a.duplicates b = true ↔
    ∃ identity, a.identity? = some identity ∧ b.identity? = some identity := by
  cases a <;> cases b <;> simp [duplicates, identity?, Binary.same_iff]
  all_goals exact eq_comm

theorem duplicates_trans (hab : a.duplicates b = true) (hbc : b.duplicates c = true) :
    a.duplicates c = true := by
  obtain ⟨identity, ha, hb⟩ := duplicates_iff.mp hab
  obtain ⟨identity', hb', hc⟩ := duplicates_iff.mp hbc
  obtain rfl : identity = identity' := Option.some.inj (hb.symm.trans hb')
  exact duplicates_iff.mpr ⟨identity, ha, hc⟩

/-- An element without an identity duplicates nothing. -/
theorem duplicates_eq_false (h : b.identity? = none) : a.duplicates b = false := by
  refine Bool.eq_false_iff.mpr fun hdup => ?_
  obtain ⟨identity, -, hb⟩ := duplicates_iff.mp hdup
  rw [h] at hb
  cases hb

/-- To duplicate an element is to be recognised by the same as it. -/
theorem duplicates_eq_decide {identity : Identity} (h : b.identity? = some identity) :
    a.duplicates b = decide (a.identity? = some identity) := by
  rw [Bool.eq_iff_iff, duplicates_iff, decide_eq_true_iff]
  constructor
  · rintro ⟨identity', ha, hb⟩
    rw [ha, ← hb, h]
  · intro ha
    exact ⟨identity, ha, h⟩

/-- Whether a value is a scalar or an enum number. -/
def isScalar : Value → Bool
  | message .. | list _ | map _ => false
  | _ => true

/-- Whether a value is one that is no number. -/
def isNaN : Value → Bool
  | float x => x.isNaN
  | double x => x.isNaN
  | _ => false

/-- An element is equal to itself unless it is no number, or not a scalar at all. -/
theorem duplicates_self_iff : a.duplicates a = true ↔ a.isScalar = true ∧ a.isNaN = false := by
  rw [duplicates_iff]
  cases a with
  | float x => cases x <;> simp [identity?, Binary.worth?, isScalar, isNaN, Binary.isNaN]
  | double x => cases x <;> simp [identity?, Binary.worth?, isScalar, isNaN, Binary.isNaN]
  | _ => simp [identity?, isScalar, isNaN]

/-- The elements at two positions of a list are equal. -/
def EqualAt (items : List Value) (position index : Nat) : Prop :=
  ∃ a b, items[position]? = some a ∧ items[index]? = some b ∧ a.duplicates b = true

/-- The element at a position of a list is equal to an earlier one, the first of these being at
another position. -/
def RepeatsAt (items : List Value) (index first : Nat) : Prop :=
  first < index ∧ EqualAt items first index ∧ ∀ position < first, ¬ EqualAt items position index

/-- An element with an equal one before it repeats the first of these. -/
theorem exists_repeatsAt_iff {items : List Value} {index : Nat} :
    (∃ first, RepeatsAt items index first) ↔ ∃ position < index, EqualAt items position index := by
  constructor
  · rintro ⟨first, hlt, hequal, -⟩
    exact ⟨first, hlt, hequal⟩
  · rintro ⟨position, hlt, hequal⟩
    classical
    have hexists : ∃ first, EqualAt items first index := ⟨position, hequal⟩
    refine ⟨Nat.find hexists, ?_, Nat.find_spec hexists, fun _ => Nat.find_min hexists⟩
    exact Nat.lt_of_le_of_lt (Nat.find_min' hexists hequal) hlt

theorem EqualAt.trans {items : List Value} {i j k : Nat} (hij : EqualAt items i j)
    (hjk : EqualAt items j k) : EqualAt items i k := by
  obtain ⟨a, b, ha, hb, hab⟩ := hij
  obtain ⟨b', c, hb', hc, hbc⟩ := hjk
  obtain rfl : b = b' := Option.some.inj (hb.symm.trans hb')
  exact ⟨a, c, ha, hc, duplicates_trans hab hbc⟩

/-- Some of the elements of a list stand for all of them: no two of them are equal, and every
element is equal to one of them. -/
structure Represents (values items : List Value) : Prop where
  distinct : values.Pairwise fun a b => a.duplicates b = false
  present : ∀ value ∈ values, value ∈ items
  complete : ∀ item ∈ items, ∃ value ∈ values, value.duplicates item = true

namespace Represents

variable {values values' items : List Value}

theorem isSome_identity? (h : Represents values items) {item : Value} (hitem : item ∈ items) :
    ∃ identity, item.identity? = some identity := by
  obtain ⟨value, -, hdup⟩ := h.complete item hitem
  obtain ⟨identity, -, hidentity⟩ := duplicates_iff.mp hdup
  exact ⟨identity, hidentity⟩

theorem nodup_identities (h : Represents values items) : (values.map identity?).Nodup := by
  refine List.pairwise_map.mpr (h.distinct.imp_of_mem fun {a b} ha hb hdistinct heq => ?_)
  obtain ⟨identity, hidentity⟩ := h.isSome_identity? (h.present a ha)
  have hdup : a.duplicates b = true :=
    duplicates_iff.mpr ⟨identity, hidentity, heq.symm.trans hidentity⟩
  rw [hdistinct] at hdup
  cases hdup

theorem mem_identities_iff (h : Represents values items) {identity : Option Identity} :
    identity ∈ values.map identity? ↔ identity ∈ items.map identity? := by
  simp only [List.mem_map]
  constructor
  · rintro ⟨value, hvalue, rfl⟩
    exact ⟨value, h.present value hvalue, rfl⟩
  · rintro ⟨item, hitem, rfl⟩
    obtain ⟨value, hvalue, hdup⟩ := h.complete item hitem
    obtain ⟨identity, hidentity, hidentity'⟩ := duplicates_iff.mp hdup
    exact ⟨value, hvalue, hidentity.trans hidentity'.symm⟩

/-- As many values stand for the elements of a list, whichever they are. -/
theorem length_eq (h : Represents values items) (h' : Represents values' items) :
    values.length = values'.length := by
  have hperm : (values.map identity?).Perm (values'.map identity?) :=
    (List.perm_ext_iff_of_nodup h.nodup_identities h'.nodup_identities).mpr fun identity =>
      h.mem_identities_iff.trans h'.mem_identities_iff.symm
  simpa using hperm.length_eq

end Represents

end Value

/-! ## The table -/

namespace Check

variable {seen : List (Value.Identity × Nat)} {earlier items : List Value} {item : Value}
  {identity : Value.Identity}

/-- The position of the first of some elements that the given one duplicates. -/
def firstDuplicate? (earlier : List Value) (item : Value) : Option Nat :=
  earlier.findIdx? fun other => other.duplicates item

/-- The elements that duplicate an earlier one, with their positions and those of the earliest. -/
def laterDuplicates (items : List Value) : List (Value × Nat × Nat) :=
  items.zipIdx.filterMap fun (item, index) =>
    (firstDuplicate? (items.take index) item).map fun first => (item, index, first)

/-- A table has, for everything that elements are recognised by, the position of the first of some
elements that is recognised by it. -/
def Recalls (seen : List (Value.Identity × Nat)) (earlier : List Value) : Prop :=
  ∀ identity, seen.lookup identity =
    earlier.findIdx? fun item => decide (item.identity? = some identity)

theorem recalls_nil : Recalls [] [] := fun _ => rfl

/-- What a table recalls about a further element: its own position, unless it was seen before. -/
theorem Recalls.lookup_concat (h : Recalls seen earlier) (item : Value)
    (identity : Value.Identity) :
    (earlier ++ [item]).findIdx? (fun item => decide (item.identity? = some identity)) =
      (seen.lookup identity).or
        (if item.identity? = some identity then some earlier.length else none) := by
  rw [List.findIdx?_append, ← h identity]
  congr 1
  by_cases hitem : item.identity? = some identity <;> simp [hitem]

/-- Elements that are not recognised are left out of the table. -/
theorem Recalls.skip (h : Recalls seen earlier) (hnone : item.identity? = none) :
    Recalls seen (earlier ++ [item]) := by
  intro identity
  rw [h.lookup_concat, hnone]
  simp

/-- Elements that come again leave the table as it is. -/
theorem Recalls.again (h : Recalls seen earlier) (hitem : item.identity? = some identity)
    {first : Nat} (hfirst : seen.lookup identity = some first) :
    Recalls seen (earlier ++ [item]) := by
  intro other
  rw [h.lookup_concat, hitem]
  by_cases heq : identity = other
  · subst heq
    simp [hfirst]
  · simp [heq]

/-- Elements that come for the first time are put into the table. -/
theorem Recalls.enter (h : Recalls seen earlier) (hitem : item.identity? = some identity)
    (hnew : seen.lookup identity = none) :
    Recalls ((identity, earlier.length) :: seen) (earlier ++ [item]) := by
  intro other
  rw [h.lookup_concat, hitem, List.lookup_cons]
  by_cases heq : identity = other
  · subst heq
    simp [hnew]
  · have hne : (other == identity) = false := by simpa using fun h => heq h.symm
    simp [heq, hne]

/-- The table tells where the first duplicate of an element is. -/
theorem Recalls.firstDuplicate?_eq (h : Recalls seen earlier)
    (hitem : item.identity? = some identity) :
    firstDuplicate? earlier item = seen.lookup identity := by
  rw [h identity, firstDuplicate?]
  congr 1
  funext other
  exact Value.duplicates_eq_decide hitem

theorem firstDuplicate?_eq_none (earlier : List Value) (hnone : item.identity? = none) :
    firstDuplicate? earlier item = none :=
  List.findIdx?_eq_none_iff.mpr fun _ _ => Value.duplicates_eq_false hnone

/-! ## One pass over a list -/

section Steps

variable {reporting : Reporting} {index first : Nat} {rest : List Value}

theorem findRepeats_skip (hnone : item.identity? = none) :
    findRepeats reporting seen index (item :: rest) =
      findRepeats reporting seen (index + 1) rest := by
  simp only [findRepeats, hnone]

theorem findRepeats_enter (hitem : item.identity? = some identity)
    (hnew : seen.lookup identity = none) :
    findRepeats reporting seen index (item :: rest) =
      findRepeats reporting ((identity, index) :: seen) (index + 1) rest := by
  simp only [findRepeats, hitem, hnew]

theorem findRepeats_again (hitem : item.identity? = some identity)
    (hfirst : seen.lookup identity = some first) :
    findRepeats reporting seen index (item :: rest) =
      (item, index, first) ::
        if reporting = .collect then findRepeats reporting seen (index + 1) rest else [] := by
  cases reporting <;> simp only [findRepeats, hitem, hfirst] <;> rfl

end Steps

/-- With a table of what comes before, one pass finds the elements that duplicate an earlier one. -/
theorem Recalls.findRepeats (h : Recalls seen earlier) (rest : List Value) :
    Check.findRepeats .collect seen earlier.length rest =
      (rest.zipIdx earlier.length).filterMap fun (item, index) =>
        (firstDuplicate? ((earlier ++ rest).take index) item).map fun first =>
          (item, index, first) := by
  induction rest generalizing seen earlier with
  | nil => rfl
  | cons item rest ih =>
    -- What remains is gone through with the element among those that come before.
    have hlength : (earlier ++ [item]).length = earlier.length + 1 := by simp
    have htake : (earlier ++ [item] ++ rest).take earlier.length = earlier := by simp
    simp only [List.append_cons earlier item rest, List.zipIdx_cons, List.filterMap_cons, htake,
      ← hlength]
    cases hitem : item.identity? with
    | none =>
      rw [findRepeats_skip hitem, firstDuplicate?_eq_none earlier hitem, ← hlength]
      exact ih (h.skip hitem)
    | some identity =>
      rw [h.firstDuplicate?_eq hitem]
      cases hseen : seen.lookup identity with
      | none =>
        rw [findRepeats_enter hitem hseen, ← hlength]
        exact ih (h.enter hitem hseen)
      | some first =>
        rw [findRepeats_again hitem hseen, ← hlength]
        exact congrArg _ (ih (h.again hitem hseen))

/-- **One pass finds exactly the elements that duplicate an earlier one**, each with the position of
the first that it duplicates. -/
theorem findRepeats_collect (items : List Value) :
    findRepeats .collect [] 0 items = laterDuplicates items :=
  recalls_nil.findRepeats items

/-- A pass that ends at the first violation finds the first of all. -/
theorem findRepeats_failFast (seen : List (Value.Identity × Nat)) (index : Nat)
    (items : List Value) :
    findRepeats .failFast seen index items = (findRepeats .collect seen index items).take 1 := by
  induction items generalizing seen index with
  | nil => rfl
  | cons item rest ih =>
    cases hitem : item.identity? with
    | none => rw [findRepeats_skip hitem, findRepeats_skip hitem, ih]
    | some identity =>
      cases hseen : seen.lookup identity with
      | none => rw [findRepeats_enter hitem hseen, findRepeats_enter hitem hseen, ih]
      | some first =>
        rw [findRepeats_again hitem hseen, findRepeats_again hitem hseen]
        rfl

theorem distinctOutcome_collect (field : String) (items : List Value) :
    distinctOutcome .collect field (.list items) =
      .ofList ((laterDuplicates items).map (duplicateViolation field)) := by
  rw [distinctOutcome, findRepeats_collect]

theorem distinctOutcome_failFast (field : String) (items : List Value) :
    distinctOutcome .failFast field (.list items) =
      .ofList (((laterDuplicates items).map (duplicateViolation field)).take 1) := by
  rw [distinctOutcome, findRepeats_failFast, findRepeats_collect, List.map_take]

/-! ## What is found -/

theorem mem_laterDuplicates {index first : Nat} : (item, index, first) ∈ laterDuplicates items ↔
    items[index]? = some item ∧ firstDuplicate? (items.take index) item = some first := by
  simp [laterDuplicates, List.mem_filterMap, List.mem_zipIdx_iff_getElem?]

/-- What is found is found in the order of the list. -/
theorem laterDuplicates_ascending (items : List Value) :
    (laterDuplicates items).Pairwise fun a b => a.2.1 < b.2.1 := by
  refine List.pairwise_filterMap.mpr ((pairwise_zipIdx items).imp fun {a b} hlt => ?_)
  intro later hlater later' hlater'
  obtain ⟨first, -, rfl⟩ := Option.map_eq_some_iff.mp hlater
  obtain ⟨first', -, rfl⟩ := Option.map_eq_some_iff.mp hlater'
  exact hlt

/-- The first duplicate of an element is at the position that it repeats. -/
theorem firstDuplicate?_eq_some_iff {index first : Nat} (hitem : items[index]? = some item) :
    firstDuplicate? (items.take index) item = some first ↔ Value.RepeatsAt items index first := by
  have hlength : (items.take index).length = index := by
    rw [List.length_take, Nat.min_eq_left]
    exact Nat.le_of_lt (List.getElem?_eq_some_iff.mp hitem).1
  have hequal : ∀ position (hlt : position < (items.take index).length),
      (items.take index)[position].duplicates item = true ↔
        Value.EqualAt items position index := by
    intro position hlt
    have hposition : items[position]? = some (items.take index)[position] := by
      rw [← List.getElem?_take_of_lt (hlength ▸ hlt), List.getElem?_eq_getElem hlt]
    constructor
    · intro hdup
      exact ⟨_, item, hposition, hitem, hdup⟩
    · rintro ⟨earlier, item', hearlier, hitem', hdup⟩
      obtain rfl : (items.take index)[position] = earlier :=
        Option.some.inj (hposition.symm.trans hearlier)
      obtain rfl : item = item' := Option.some.inj (hitem.symm.trans hitem')
      exact hdup
  rw [firstDuplicate?, List.findIdx?_eq_some_iff_getElem]
  constructor
  · rintro ⟨hlt, hdup, hmin⟩
    exact ⟨hlength ▸ hlt, (hequal first hlt).mp hdup, fun position hposition hsame =>
      hmin position hposition ((hequal position (Nat.lt_trans hposition hlt)).mpr hsame)⟩
  · rintro ⟨hlt, hsame, hmin⟩
    have hfirst : first < (items.take index).length := hlength.symm ▸ hlt
    exact ⟨hfirst, (hequal first hfirst).mpr hsame, fun position hposition hdup =>
      hmin position hposition ((hequal position (Nat.lt_trans hposition hfirst)).mp hdup)⟩

/-- **What is found are the elements that repeat an earlier one**, with the first that they
repeat. -/
theorem exists_mem_laterDuplicates_iff {index first : Nat} :
    (∃ item, (item, index, first) ∈ laterDuplicates items) ↔ Value.RepeatsAt items index first := by
  simp only [mem_laterDuplicates]
  constructor
  · rintro ⟨item, hitem, hfirst⟩
    exact (firstDuplicate?_eq_some_iff hitem).mp hfirst
  · intro hrepeats
    obtain ⟨-, ⟨-, item, -, hitem, -⟩, -⟩ := id hrepeats
    exact ⟨item, hitem, (firstDuplicate?_eq_some_iff hitem).mpr hrepeats⟩

/-- The elements that duplicate no earlier one. -/
def firstOccurrences (items : List Value) : List Value :=
  (items.zipIdx.filter fun (item, index) =>
    (firstDuplicate? (items.take index) item).isNone).map (·.1)

/-- Every element either comes for the first time or duplicates an earlier one. -/
theorem length_laterDuplicates (items : List Value) :
    (laterDuplicates items).length + (firstOccurrences items).length = items.length := by
  have hsplit := List.length_eq_countP_add_countP (l := items.zipIdx)
    fun (item, index) => (firstDuplicate? (items.take index) item).isSome
  rw [List.length_zipIdx] at hsplit
  rw [hsplit, laterDuplicates, firstOccurrences, List.length_filterMap_eq_countP, List.length_map,
    ← List.countP_eq_length_filter]
  exact congrArg₂ (· + ·) (List.countP_congr fun entry _ => by simp)
    (List.countP_congr fun entry _ => by simp)

/-- The elements that come for the first time stand for all of them. -/
theorem represents_firstOccurrences (h : ∀ item ∈ items, item.duplicates item = true) :
    Value.Represents (firstOccurrences items) items where
  distinct := by
    refine List.pairwise_map.mpr (((pairwise_zipIdx items).filter _).imp_of_mem ?_)
    rintro ⟨a, i⟩ ⟨b, j⟩ ha hb hlt
    obtain ⟨ha, -⟩ := List.mem_filter.mp ha
    obtain ⟨-, hfirst⟩ := List.mem_filter.mp hb
    have hnone : firstDuplicate? (items.take j) b = none := Option.isNone_iff_eq_none.mp hfirst
    have hearlier : (items.take j)[i]? = some a :=
      (List.getElem?_take_of_lt hlt).trans (List.mem_zipIdx_iff_getElem?.mp ha)
    exact List.findIdx?_eq_none_iff.mp hnone a (List.mem_of_getElem? hearlier)
  present := by
    intro value hvalue
    obtain ⟨⟨item, index⟩, hmem, rfl⟩ := List.mem_map.mp hvalue
    exact List.mem_of_getElem? (List.mem_zipIdx_iff_getElem?.mp (List.mem_filter.mp hmem).1)
  complete := by
    intro item hitem
    obtain ⟨index, hindex⟩ := List.getElem?_of_mem hitem
    classical
    have hexists : ∃ first, Value.EqualAt items first index :=
      ⟨index, item, item, hindex, hindex, h item hitem⟩
    -- The first of all elements that are equal to this one duplicates none before it.
    obtain ⟨first, item', hfirst, hitem', hdup⟩ := Nat.find_spec hexists
    obtain rfl : item = item' := Option.some.inj (hindex.symm.trans hitem')
    have hnone : firstDuplicate? (items.take (Nat.find hexists)) first = none := by
      refine Option.eq_none_iff_forall_ne_some.mpr fun earlier hearlier => ?_
      obtain ⟨hlt, hequal, -⟩ := (firstDuplicate?_eq_some_iff hfirst).mp hearlier
      exact Nat.find_min hexists hlt (hequal.trans (Nat.find_spec hexists))
    refine ⟨first, List.mem_map.mpr ⟨(first, Nat.find hexists), ?_, rfl⟩, hdup⟩
    exact List.mem_filter.mpr
      ⟨List.mem_zipIdx_iff_getElem?.mpr hfirst, Option.isNone_iff_eq_none.mpr hnone⟩

end Check

/-! ## The rule on duplicates -/

theorem Outcome.ofList_eq_pass_iff {vs : List Violation} : Outcome.ofList vs = .pass ↔ vs = [] := by
  cases vs <;> simp [Outcome.ofList]

/-- A violation says that the element at a position of a list repeats the one at another. -/
structure Violation.MarksRepeat (v : Violation) (field : String) (items : List Value)
    (index first : Nat) : Prop where
  rule_eq : v.rule = "distinct"
  path_eq : v.path = [.index index]
  field_eq : v.template.param? "field" = some field
  value_eq : v.template.param? "value" = items[index]?.map Value.text
  duplicate_index_eq : v.template.param? "duplicate_index" = some (toString index)
  first_index_eq : v.template.param? "first_index" = some (toString first)

namespace Check

theorem marksRepeat_duplicateViolation {items : List Value} {item : Value} {index first : Nat}
    (hitem : items[index]? = some item) (field : String) :
    (duplicateViolation field (item, index, first)).MarksRepeat field items index first where
  rule_eq := rfl
  path_eq := rfl
  field_eq := by simp [duplicateViolation, Template.param?, Template.withParam]
  value_eq := by simp [duplicateViolation, Template.param?, Template.withParam, hitem]
  duplicate_index_eq := by simp [duplicateViolation, Template.param?, Template.withParam]
  first_index_eq := by simp [duplicateViolation, Template.param?, Template.withParam]

/-- **The rule on duplicates reports exactly the later ones.**  When all violations are collected,
there is one for each element that an earlier one is equal to, in the order of the list, with its
position and that of the first element that is equal to it.  So a list passes exactly if no two of
its elements are equal, and without values that are no number there are as many violations as the
list has elements beyond those that stand for all of them.  Where the rule ends at the first
violation, it is the first of these.  Elements are equal exactly if they are recognised by the
same. -/
theorem distinct_marks_repeats (field : String) (items : List Value) :
    ∃ (repeats : List (Nat × Nat)) (vs : List Violation),
      repeats.Pairwise (fun a b => a.1 < b.1) ∧
      (∀ index first, (index, first) ∈ repeats ↔ Value.RepeatsAt items index first) ∧
      (∀ index, (∃ first, (index, first) ∈ repeats) ↔
        ∃ position < index, Value.EqualAt items position index) ∧
      List.Forall₂ (fun entry v => v.MarksRepeat field items entry.1 entry.2) repeats vs ∧
      distinctOutcome .collect field (.list items) = .ofList vs ∧
      distinctOutcome .failFast field (.list items) = .ofList (vs.take 1) ∧
      (distinctOutcome .collect field (.list items) = .pass ↔
        ∀ position index, position < index → ¬ Value.EqualAt items position index) ∧
      ((∀ item ∈ items, item.isScalar = true ∧ item.isNaN = false) →
        (∃ values, Value.Represents values items) ∧
          ∀ values, Value.Represents values items → vs.length + values.length = items.length) ∧
      ∀ a b : Value, a.duplicates b = true ↔
        ∃ identity, a.identity? = some identity ∧ b.identity? = some identity := by
  have hrepeats : ∀ index first,
      (index, first) ∈ (laterDuplicates items).map (fun later => (later.2.1, later.2.2)) ↔
        Value.RepeatsAt items index first := by
    intro index first
    rw [← exists_mem_laterDuplicates_iff]
    simp
  have hindices : ∀ index,
      (∃ first, (index, first) ∈ (laterDuplicates items).map fun later => (later.2.1, later.2.2)) ↔
        ∃ position < index, Value.EqualAt items position index :=
    fun index => (exists_congr (hrepeats index)).trans Value.exists_repeatsAt_iff
  refine ⟨_, _, List.pairwise_map.mpr (laterDuplicates_ascending items), hrepeats, hindices, ?_,
    distinctOutcome_collect field items, distinctOutcome_failFast field items, ?_, ?_,
    fun _ _ => Value.duplicates_iff⟩
  · rw [List.forall₂_map_left_iff, List.forall₂_map_right_iff, List.forall₂_same]
    rintro ⟨item, index, first⟩ hlater
    exact marksRepeat_duplicateViolation (mem_laterDuplicates.mp hlater).1 field
  · rw [distinctOutcome_collect, Outcome.ofList_eq_pass_iff, List.map_eq_nil_iff,
      List.eq_nil_iff_forall_not_mem]
    constructor
    · intro hnone position index hlt hequal
      obtain ⟨first, hmem⟩ := (hindices index).mpr ⟨position, hlt, hequal⟩
      obtain ⟨later, hlater, -⟩ := List.mem_map.mp hmem
      exact hnone later hlater
    · rintro hdifferent ⟨item, index, first⟩ hlater
      obtain ⟨position, hlt, hequal⟩ :=
        (hindices index).mp ⟨first, List.mem_map_of_mem hlater⟩
      exact hdifferent position index hlt hequal
  · intro hscalar
    have hself : ∀ item ∈ items, item.duplicates item = true :=
      fun item hitem => Value.duplicates_self_iff.mpr (hscalar item hitem)
    have hrepresents := represents_firstOccurrences hself
    refine ⟨⟨_, hrepresents⟩, fun values hvalues => ?_⟩
    rw [List.length_map, hvalues.length_eq hrepresents, length_laterDuplicates]

end Check

end MessageConstraints
