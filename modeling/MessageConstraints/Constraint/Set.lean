import MessageConstraints.Constraint.Basic

/-!
# Constraint sets

The constraints attached to one element: at most one of each kind, kept in the listing order of
the kinds.  The invariant is part of the type, so no operation can lose it.  The view of a set is
`get?`; `get?_insert` says that the last constraint of a kind wins.
-/

namespace MessageConstraints

/-- The constraints of an element, at most one of each kind. -/
structure ConstraintSet where
  entries : List Constraint
  ordered : entries.Pairwise fun a b => a.kind.rank < b.kind.rank

namespace ConstraintSet

/-- Puts a constraint in its place, and hands back the one of the same kind that was there. -/
def place (c : Constraint) : List Constraint → Option Constraint × List Constraint
  | [] => (none, [c])
  | d :: rest =>
    if c.kind.rank < d.kind.rank then (none, c :: d :: rest)
    else if c.kind.rank = d.kind.rank then (some d, c :: rest)
    else
      let (old, placed) := place c rest
      (old, d :: placed)

theorem mem_place {c d : Constraint} {entries : List Constraint} (h : d ∈ (place c entries).2) :
    d = c ∨ d ∈ entries := by
  induction entries with
  | nil => simpa [place] using h
  | cons e rest ih =>
    simp only [place] at h
    split at h
    · simpa using h
    · split at h
      · rcases List.mem_cons.1 h with rfl | h
        · exact Or.inl rfl
        · exact Or.inr (List.mem_cons_of_mem _ h)
      · rcases List.mem_cons.1 h with rfl | h
        · exact Or.inr List.mem_cons_self
        · exact (ih h).imp_right (List.mem_cons_of_mem _)

theorem ordered_place (c : Constraint) {entries : List Constraint}
    (h : entries.Pairwise fun a b => a.kind.rank < b.kind.rank) :
    (place c entries).2.Pairwise fun a b => a.kind.rank < b.kind.rank := by
  induction entries with
  | nil => simp [place]
  | cons d rest ih =>
    have hd := List.pairwise_cons.1 h
    simp only [place]
    split
    · refine List.pairwise_cons.2 ⟨fun e he => ?_, h⟩
      rcases List.mem_cons.1 he with rfl | he
      · assumption
      · have := hd.1 e he
        omega
    · split
      · refine List.pairwise_cons.2 ⟨fun e he => ?_, hd.2⟩
        have := hd.1 e he
        omega
      · refine List.pairwise_cons.2 ⟨fun e he => ?_, ih hd.2⟩
        rcases mem_place he with rfl | he
        · omega
        · exact hd.1 e he

/-- The set without constraints. -/
def empty : ConstraintSet := ⟨[], List.Pairwise.nil⟩

instance : Inhabited ConstraintSet := ⟨empty⟩

/-- Attaches a constraint in place of the one of its kind, which is handed back. -/
def exchange (set : ConstraintSet) (c : Constraint) : Option Constraint × ConstraintSet :=
  let placed := place c set.entries
  (placed.1, ⟨placed.2, ordered_place c set.ordered⟩)

/-- Attaches a constraint, in place of the one of its kind. -/
def insert (set : ConstraintSet) (c : Constraint) : ConstraintSet :=
  (set.exchange c).2

/-- The constraint of a kind. -/
def get? (set : ConstraintSet) (kind : ConstraintKind) : Option Constraint :=
  set.entries.find? fun c => c.kind = kind

/-- Whether a constraint of a kind is attached. -/
def has (set : ConstraintSet) (kind : ConstraintKind) : Bool :=
  (set.get? kind).isSome

/-- The constraints in the listing order of their kinds. -/
def toList (set : ConstraintSet) : List Constraint :=
  set.entries

/-- The number of constraints. -/
def size (set : ConstraintSet) : Nat :=
  set.entries.length

/-- Whether nothing is attached. -/
def isEmpty (set : ConstraintSet) : Bool :=
  set.entries.isEmpty

/-- Attaches constraints one after the other. -/
def insertAll (set : ConstraintSet) (constraints : List Constraint) : ConstraintSet :=
  constraints.foldl insert set

/-- The set of some constraints, a later one in place of an earlier one of its kind. -/
def ofList (constraints : List Constraint) : ConstraintSet :=
  empty.insertAll constraints

/-! ## Looking up -/

@[simp] theorem get?_empty (kind : ConstraintKind) : empty.get? kind = none := rfl

theorem find?_place (c : Constraint) (kind : ConstraintKind) (entries : List Constraint) :
    (place c entries).2.find? (fun d => d.kind = kind) =
      if c.kind = kind then some c else entries.find? fun d => d.kind = kind := by
  induction entries with
  | nil => by_cases h : c.kind = kind <;> simp [place, h]
  | cons d rest ih =>
    unfold place
    split
    · by_cases h : c.kind = kind <;> simp [h]
    · split
      case isTrue heq =>
        have hsame : c.kind = d.kind := ConstraintKind.rank_injective heq
        by_cases h : c.kind = kind
        · simp [h]
        · have hne : d.kind ≠ kind := hsame ▸ h
          simp [h, hne]
      case isFalse hrank =>
        by_cases h : d.kind = kind
        · have hne : c.kind ≠ kind := fun heq => hrank (by rw [heq, h])
          simp [h, hne]
        · simp [h, ih]

/-- The last constraint of a kind wins, and other kinds keep theirs. -/
@[simp] theorem get?_insert (set : ConstraintSet) (c : Constraint) (kind : ConstraintKind) :
    (set.insert c).get? kind = if c.kind = kind then some c else set.get? kind :=
  find?_place c kind set.entries

/-- A constraint that a set has for a kind is of the kind. -/
theorem kind_of_get? {set : ConstraintSet} {kind : ConstraintKind} {constraint : Constraint}
    (h : set.get? kind = some constraint) : constraint.kind = kind := by
  simpa using List.find?_some h

/-- What a set lists is what it has for its kind. -/
theorem mem_toList_iff {set : ConstraintSet} {constraint : Constraint} :
    constraint ∈ set.toList ↔ set.get? constraint.kind = some constraint := by
  refine ⟨fun hmem => ?_, List.mem_of_find?_eq_some⟩
  obtain ⟨entries, hordered⟩ := set
  show entries.find? _ = _
  induction entries with
  | nil => cases hmem
  | cons first rest ih =>
    obtain ⟨hfirst, hrest⟩ := List.pairwise_cons.mp hordered
    rcases List.mem_cons.mp hmem with rfl | hlater
    · exact List.find?_cons_of_pos (by simp)
    · have hne : first.kind ≠ constraint.kind := fun hkind =>
        Nat.ne_of_lt (hfirst constraint hlater) (congrArg ConstraintKind.rank hkind)
      rw [List.find?_cons_of_neg (by simpa using hne)]
      exact ih hrest hlater

end ConstraintSet

end MessageConstraints
