/-!
# Tables keyed by name

A finite table from names to values that remembers the order in which its names first came.
Rule sets, template parameters and the stores of resolved and compiled types are such tables.
The view of a table is `find?`; the two lemmas on `insert` say that the last write of a name wins
and that no other name is touched.
-/

namespace MessageConstraints

/-- A table from names to values, in the order in which the names were first written. -/
structure NameMap (α : Type) where
  entries : List (String × α)
deriving Repr, DecidableEq

namespace NameMap

variable {α β : Type}

/-- The table without any name. -/
def empty : NameMap α := ⟨[]⟩

instance : Inhabited (NameMap α) := ⟨empty⟩

/-- The value of a name in a list of entries, the first entry deciding. -/
def findIn (name : String) : List (String × α) → Option α
  | [] => none
  | (key, value) :: rest => if key = name then some value else findIn name rest

/-- The value under a name. -/
def find? (table : NameMap α) (name : String) : Option α :=
  findIn name table.entries

/-- Whether a name has a value. -/
def contains (table : NameMap α) (name : String) : Bool :=
  (table.find? name).isSome

/-- Writes a name in a list of entries: in place if the name is there, at the end if not. -/
def insertIn (name : String) (value : α) : List (String × α) → List (String × α)
  | [] => [(name, value)]
  | (key, old) :: rest =>
    if key = name then (name, value) :: rest else (key, old) :: insertIn name value rest

/-- Gives a name a value, in place of the one it had. -/
def insert (table : NameMap α) (name : String) (value : α) : NameMap α :=
  ⟨insertIn name value table.entries⟩

/-- The names of a table, in the order in which they first came. -/
def names (table : NameMap α) : List String :=
  table.entries.map (·.1)

/-- Whether the table has no name. -/
def isEmpty (table : NameMap α) : Bool :=
  table.entries.isEmpty

/-- The table with its names in another order. -/
def inOrder (table : NameMap α) (names : List String) : NameMap α :=
  ⟨names.filterMap fun name => (table.find? name).map (name, ·)⟩

/-- The entries in the order of their names. -/
def sorted (table : NameMap α) : List (String × α) :=
  table.entries.mergeSort fun a b => decide (a.1 ≤ b.1)

@[simp] theorem find?_empty (name : String) : (empty : NameMap α).find? name = none := rfl

theorem findIn_insertIn (entries : List (String × α)) (name other : String) (value : α) :
    findIn other (insertIn name value entries) =
      if name = other then some value else findIn other entries := by
  induction entries with
  | nil => simp [insertIn, findIn]
  | cons entry rest ih =>
    obtain ⟨key, old⟩ := entry
    by_cases hk : key = name
    · subst hk
      by_cases ho : key = other <;> simp [insertIn, findIn, ho]
    · by_cases ho : name = other
      · subst ho
        simp [insertIn, findIn, hk, ih]
      · by_cases hko : key = other
        · subst hko
          simp [insertIn, findIn, hk, ho]
        · simp [insertIn, findIn, hk, hko, ho, ih]

/-- The last write of a name wins, and other names keep their values. -/
@[simp] theorem find?_insert (table : NameMap α) (name other : String) (value : α) :
    (table.insert name value).find? other =
      if name = other then some value else table.find? other :=
  findIn_insertIn table.entries name other value

/-- A name written into a table is in it. -/
theorem contains_insert (table : NameMap α) (name other : String) (value : α) :
    (table.insert name value).contains other = (decide (name = other) || table.contains other) := by
  by_cases h : name = other <;> simp [contains, h]

end NameMap

end MessageConstraints
