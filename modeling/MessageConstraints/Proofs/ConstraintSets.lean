import Mathlib.Data.List.Dedup
import Mathlib.Data.List.Sort
import Mathlib.Tactic.Common
import MessageConstraints.Constraint.Set

/-!
# Sets of constraints

A set of constraints is seen through what it has for each kind: sets that have the same for every
kind are equal (`ConstraintSet.eq_of_get?`), and attaching a constraint changes what there is for
its kind and nothing else.  So after some constraints have been attached, a set has for each kind
the last of them (`ConstraintSet.get?_insertAll`).

The rest is told by this.  Attaching hands back what there was for the kind
(`ConstraintSet.exchange_eq`), and a set lists what it has for the kinds, in the order in which
these are declared (`ConstraintSet.toList_eq`), so that the order of attaching cannot be seen in the
kinds that are listed.
-/

namespace MessageConstraints

/-! ## The listing order -/

namespace ConstraintKind

/-- The kinds in the order in which they are declared. -/
def listingOrder : List ConstraintKind :=
  [required, pattern, min, max, range, distinct, dependency, recurse, choice, combination]

theorem rank_eq_ctorIdx (kind : ConstraintKind) : kind.rank = kind.ctorIdx := by
  cases kind <;> rfl

theorem listingOrder_ascending : listingOrder.Pairwise fun a b => a.ctorIdx < b.ctorIdx := by
  decide

theorem mem_listingOrder (kind : ConstraintKind) : kind ∈ listingOrder := by
  cases kind <;> decide

end ConstraintKind

namespace ConstraintSet

variable {set other : ConstraintSet} {kind : ConstraintKind} {c : Constraint}

/-! ## Equal sets -/

/-- Lists in the listing order that have the same members are the same. -/
theorem eq_of_ordered {first second : List Constraint}
    (hfirst : first.Pairwise fun a b => a.kind.rank < b.kind.rank)
    (hsecond : second.Pairwise fun a b => a.kind.rank < b.kind.rank)
    (hmem : ∀ c, c ∈ first ↔ c ∈ second) : first = second := by
  have hirrefl : Std.Irrefl fun a b : Constraint => a.kind.rank < b.kind.rank :=
    ⟨fun _ => Nat.lt_irrefl _⟩
  have hantisymm : Std.Antisymm fun a b : Constraint => a.kind.rank < b.kind.rank :=
    ⟨fun _ _ hab hba => absurd hab (Nat.lt_asymm hba)⟩
  exact hfirst.eq_of_mem_iff hsecond hmem

/-- A set is told by the constraints that it has for the kinds. -/
theorem eq_of_get? (h : ∀ kind, set.get? kind = other.get? kind) : set = other := by
  have hmem : ∀ c, c ∈ set.toList ↔ c ∈ other.toList := by
    intro c
    rw [mem_toList_iff, mem_toList_iff, h]
  have hentries := eq_of_ordered set.ordered other.ordered hmem
  obtain ⟨entries, _⟩ := set
  obtain rfl : entries = other.entries := hentries
  rfl

/-! ## One constraint after the other -/

/-- **Of the constraints that are attached, the last one of a kind wins**; if there is none, what
was there stays. -/
theorem get?_insertAll (set : ConstraintSet) (attached : List Constraint) (kind : ConstraintKind) :
    (set.insertAll attached).get? kind =
      (attached.filter fun c => c.kind = kind).getLast?.or (set.get? kind) := by
  induction attached generalizing set with
  | nil => rfl
  | cons c rest ih =>
    have hadded : set.insertAll (c :: rest) = (set.insert c).insertAll rest := rfl
    rw [hadded, ih, get?_insert]
    by_cases hkind : c.kind = kind
    · rw [List.filter_cons_of_pos (by simpa using hkind), List.getLast?_cons, if_pos hkind]
      cases (rest.filter fun c => c.kind = kind).getLast? <;> rfl
    · rw [List.filter_cons_of_neg (by simpa using hkind), if_neg hkind]

/-- Of what a set lists, one constraint at most is of a kind. -/
theorem filter_toList (set : ConstraintSet) (kind : ConstraintKind) :
    set.toList.filter (fun c => c.kind = kind) = (set.get? kind).toList := by
  refine eq_of_ordered (set.ordered.filter _) ?_ fun c => ?_
  · cases set.get? kind <;> simp
  · rw [List.mem_filter, mem_toList_iff, Option.mem_toList, decide_eq_true_eq]
    constructor
    · rintro ⟨hget, rfl⟩
      exact hget
    · intro hget
      obtain rfl := kind_of_get? hget
      exact ⟨hget, rfl⟩

/-- The constraints that are added win over those that are there. -/
theorem get?_insertAll_toList (set other : ConstraintSet) (kind : ConstraintKind) :
    (set.insertAll other.toList).get? kind = (other.get? kind).or (set.get? kind) := by
  rw [get?_insertAll, filter_toList]
  cases other.get? kind <;> rfl

@[simp] theorem insertAll_empty (set : ConstraintSet) : set.insertAll empty.toList = set := rfl

/-- Adding a set with one more constraint comes to adding the set and the constraint. -/
theorem insertAll_insert (set other : ConstraintSet) (c : Constraint) :
    set.insertAll (other.insert c).toList = (set.insertAll other.toList).insert c := by
  refine eq_of_get? fun kind => ?_
  simp only [get?_insertAll_toList, get?_insert]
  by_cases hkind : c.kind = kind <;> simp [hkind]

/-! ## What is handed back -/

/-- The constraint that another one takes the place of is the one of its kind. -/
theorem place_fst {entries : List Constraint}
    (h : entries.Pairwise fun a b => a.kind.rank < b.kind.rank) :
    (place c entries).1 = entries.find? fun d => d.kind = c.kind := by
  induction entries with
  | nil => rfl
  | cons d rest ih =>
    obtain ⟨hfirst, hrest⟩ := List.pairwise_cons.mp h
    unfold place
    split
    case isTrue hlt =>
      -- Once the place is passed, no constraint of the kind can follow.
      refine (List.find?_eq_none.mpr fun e he hsame => ?_).symm
      rw [← of_decide_eq_true hsame] at hlt
      rcases List.mem_cons.mp he with rfl | hlater
      · exact Nat.lt_irrefl _ hlt
      · exact Nat.lt_asymm hlt (hfirst e hlater)
    case isFalse =>
      split
      case isTrue heq =>
        rw [List.find?_cons_of_pos (by simp [ConstraintKind.rank_injective heq])]
      case isFalse hne =>
        have hother : ¬ d.kind = c.kind := fun hsame => hne (by rw [hsame])
        rw [List.find?_cons_of_neg (by simpa using hother)]
        exact ih hrest

/-- **Attaching a constraint hands back what there was for its kind.** -/
theorem exchange_eq (set : ConstraintSet) (c : Constraint) :
    set.exchange c = (set.get? c.kind, set.insert c) :=
  Prod.ext (place_fst set.ordered) rfl

/-! ## What is listed -/

/-- **A set lists what it has for the kinds, in the order in which these are declared.** -/
theorem toList_eq (set : ConstraintSet) :
    set.toList = ConstraintKind.listingOrder.filterMap set.get? := by
  refine eq_of_ordered set.ordered ?_ fun c => ?_
  · refine ConstraintKind.listingOrder_ascending.filterMap _ fun kind kind' hlt c hc c' hc' => ?_
    rw [kind_of_get? hc, kind_of_get? hc', ConstraintKind.rank_eq_ctorIdx,
      ConstraintKind.rank_eq_ctorIdx]
    exact hlt
  · rw [mem_toList_iff, List.mem_filterMap]
    constructor
    · intro hget
      exact ⟨c.kind, ConstraintKind.mem_listingOrder _, hget⟩
    · rintro ⟨kind, -, hget⟩
      rwa [kind_of_get? hget]

theorem toList_ascending (set : ConstraintSet) :
    set.toList.Pairwise fun a b => a.kind.ctorIdx < b.kind.ctorIdx := by
  refine set.ordered.imp fun hlt => ?_
  rwa [← ConstraintKind.rank_eq_ctorIdx, ← ConstraintKind.rank_eq_ctorIdx]

/-- The kinds that are listed are those for which there is a constraint. -/
theorem map_kind_toList (set : ConstraintSet) :
    set.toList.map Constraint.kind = ConstraintKind.listingOrder.filter set.has := by
  rw [toList_eq, List.map_filterMap, ← List.filterMap_eq_filter]
  refine List.filterMap_congr fun kind _ => ?_
  cases hget : set.get? kind with
  | none => simp [Option.guard, has, hget]
  | some c => simp [Option.guard, has, hget, kind_of_get? hget]

/-! ## What is attached from the start on -/

theorem ofList_append (initial attached : List Constraint) :
    ofList (initial ++ attached) = (ofList initial).insertAll attached :=
  List.foldl_append

theorem get?_ofList (attached : List Constraint) (kind : ConstraintKind) :
    (ofList attached).get? kind = (attached.filter fun c => c.kind = kind).getLast? := by
  rw [ofList, get?_insertAll, get?_empty, Option.or_none]

theorem has_ofList_iff {attached : List Constraint} :
    (ofList attached).has kind = true ↔ kind ∈ attached.map Constraint.kind := by
  rw [has, get?_ofList, List.getLast?_isSome, ne_eq, List.filter_eq_nil_iff]
  simp

theorem map_kind_toList_ofList (attached : List Constraint) :
    (ofList attached).toList.map Constraint.kind =
      ConstraintKind.listingOrder.filter fun kind => kind ∈ attached.map Constraint.kind := by
  rw [map_kind_toList]
  refine List.filter_congr fun kind _ => ?_
  rw [Bool.eq_iff_iff, has_ofList_iff, decide_eq_true_eq]

/-- There are as many constraints as different kinds of them have been attached. -/
theorem size_ofList (attached : List Constraint) :
    (ofList attached).size = (attached.map Constraint.kind).dedup.length := by
  have hnodup : ConstraintKind.listingOrder.Nodup := by decide
  have hperm : ((ofList attached).toList.map Constraint.kind).Perm
      (attached.map Constraint.kind).dedup := by
    rw [map_kind_toList_ofList]
    refine (List.perm_ext_iff_of_nodup (hnodup.filter _) (List.nodup_dedup _)).mpr fun kind => ?_
    rw [List.mem_filter, List.mem_dedup, decide_eq_true_eq]
    exact and_iff_right (ConstraintKind.mem_listingOrder kind)
  rw [← hperm.length_eq, List.length_map]
  rfl

/-- What a set shows if the constraints that have been attached to it are these, in this order. -/
structure HoldsLast (set : ConstraintSet) (attached : List Constraint) : Prop where
  /-- There is the last constraint of a kind. -/
  get?_eq : ∀ kind, set.get? kind = (attached.filter fun c => c.kind = kind).getLast?
  /-- What there is for a kind is of this kind. -/
  kind_eq : ∀ kind c, set.get? kind = some c → c.kind = kind
  has_iff : ∀ kind, set.has kind = true ↔ ∃ c, set.get? kind = some c
  /-- Whatever is attached next hands back what there is for its kind. -/
  exchange_eq : ∀ c, set.exchange c = (set.get? c.kind, set.insert c)
  /-- Different kinds are counted, however often they have been attached. -/
  size_eq : set.size = (attached.map Constraint.kind).dedup.length
  isEmpty_iff : set.isEmpty = true ↔ set.size = 0
  /-- What there is for the kinds is listed, and nothing else, -/
  toList_eq : set.toList = ConstraintKind.listingOrder.filterMap set.get?
  /-- in the order in which the kinds are declared. -/
  ascending : set.toList.Pairwise fun a b => a.kind.ctorIdx < b.kind.ctorIdx
  /-- Each kind that has been attached is listed once, whatever the order of attaching. -/
  kinds_eq : set.toList.map Constraint.kind =
    ConstraintKind.listingOrder.filter fun kind => kind ∈ attached.map Constraint.kind

/-- **A set holds, of each kind, the constraint that was attached last**, whatever it is made from
and whatever is attached to it afterwards. -/
theorem insertAll_holdsLast (initial attached : List Constraint) :
    ((ofList initial).insertAll attached).HoldsLast (initial ++ attached) := by
  rw [← ofList_append]
  generalize initial ++ attached = attached
  exact {
    get?_eq := get?_ofList attached
    kind_eq := fun _ _ => kind_of_get?
    has_iff := fun _ => Option.isSome_iff_exists
    exchange_eq := exchange_eq _
    size_eq := size_ofList attached
    isEmpty_iff := List.isEmpty_iff_length_eq_zero
    toList_eq := toList_eq _
    ascending := toList_ascending _
    kinds_eq := map_kind_toList_ofList attached }

end ConstraintSet

end MessageConstraints
