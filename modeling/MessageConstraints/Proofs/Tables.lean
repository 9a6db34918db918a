import Mathlib.Data.List.Nodup
import Mathlib.Tactic.Common
import MessageConstraints.NameMap

/-!
# Tables

The entries of tables, and the merging of tables.  Two tables are merged name by name
(`NameMap.mergeWith`).  What a merged table has for a name depends only on what the two have for it
(`NameMap.find?_mergeWith`), and changing an entry of the second table before merging comes to
changing it afterwards, if that is so of the values (`NameMap.mergeWith_modify`).
-/

namespace MessageConstraints

namespace NameMap

variable {α : Type} {table other : NameMap α} {name key : String} {value : α}

/-! ## Entries -/

theorem mem_entries_of_find? (h : table.find? name = some value) :
    (name, value) ∈ table.entries := by
  obtain ⟨entries⟩ := table
  induction entries with
  | nil => cases h
  | cons entry rest ih =>
    obtain ⟨key, stored⟩ := entry
    unfold find? findIn at h
    by_cases hkey : key = name
    · rw [if_pos hkey] at h
      obtain rfl := Option.some.inj h
      exact hkey ▸ List.mem_cons_self
    · rw [if_neg hkey] at h
      exact List.mem_cons_of_mem _ (ih h)

/-- If no name comes twice, every entry is found. -/
theorem find?_eq_some_of_mem (hnodup : table.names.Nodup) (h : (name, value) ∈ table.entries) :
    table.find? name = some value := by
  obtain ⟨entries⟩ := table
  induction entries with
  | nil => cases h
  | cons entry rest ih =>
    obtain ⟨key, stored⟩ := entry
    obtain ⟨hfresh, hrest⟩ := List.nodup_cons.mp hnodup
    unfold find? findIn
    rcases List.mem_cons.mp h with heq | hmem
    · obtain ⟨rfl, rfl⟩ := Prod.mk.inj heq
      exact if_pos rfl
    · have hkey : key ≠ name := by
        rintro rfl
        exact hfresh (List.mem_map.mpr ⟨_, hmem, rfl⟩)
      rw [if_neg hkey]
      exact ih hrest hmem

/-- The name that is written is the only one that can be added. -/
theorem mem_names_insertIn {entries : List (String × α)} {other : String}
    (h : other ∈ (insertIn name value entries).map (·.1)) :
    other = name ∨ other ∈ entries.map (·.1) := by
  induction entries with
  | nil => exact Or.inl (List.mem_singleton.mp h)
  | cons entry rest ih =>
    obtain ⟨key, stored⟩ := entry
    unfold insertIn at h
    by_cases hkey : key = name
    · rw [if_pos hkey] at h
      rcases List.mem_cons.mp h with rfl | hrest
      · exact Or.inl rfl
      · exact Or.inr (List.mem_cons_of_mem _ hrest)
    · rw [if_neg hkey] at h
      rcases List.mem_cons.mp h with rfl | hrest
      · exact Or.inr List.mem_cons_self
      · exact (ih hrest).imp_right (List.mem_cons_of_mem _)

/-- Writing a name keeps all names apart. -/
theorem nodup_names_insert (hnodup : table.names.Nodup) (name : String) (value : α) :
    (table.insert name value).names.Nodup := by
  obtain ⟨entries⟩ := table
  show ((insertIn name value entries).map (·.1)).Nodup
  induction entries with
  | nil => simp [insertIn]
  | cons entry rest ih =>
    obtain ⟨key, stored⟩ := entry
    obtain ⟨hfresh, hrest⟩ := List.nodup_cons.mp hnodup
    unfold insertIn
    by_cases hkey : key = name
    · subst hkey
      rw [if_pos rfl]
      exact List.nodup_cons.mpr ⟨hfresh, hrest⟩
    · rw [if_neg hkey]
      refine List.nodup_cons.mpr ⟨fun hmem => ?_, ih hrest⟩
      exact (mem_names_insertIn hmem).elim hkey hfresh

/-- Writing a name that a table does not have puts an entry at the end. -/
theorem entries_insert (value : α) (h : table.contains name = false) :
    (table.insert name value).entries = table.entries ++ [(name, value)] := by
  obtain ⟨entries⟩ := table
  show insertIn name value entries = entries ++ [(name, value)]
  induction entries with
  | nil => rfl
  | cons entry rest ih =>
    obtain ⟨key, stored⟩ := entry
    have hkey : key ≠ name := by
      rintro rfl
      simp [contains, find?, findIn] at h
    have hrest : NameMap.contains ⟨rest⟩ name = false := by
      simpa [contains, find?, findIn, hkey] using h
    rw [insertIn, if_neg hkey, ih hrest]
    rfl

/-- If no name comes twice, there is one entry for a name that is found. -/
theorem filter_entries (hnodup : table.names.Nodup)
    (h : table.find? name = some value) :
    table.entries.filter (fun entry => entry.1 = name) = [(name, value)] := by
  obtain ⟨entries⟩ := table
  induction entries with
  | nil => cases h
  | cons entry rest ih =>
    obtain ⟨key, stored⟩ := entry
    obtain ⟨hfresh, hrest⟩ := List.nodup_cons.mp hnodup
    unfold find? findIn at h
    by_cases hkey : key = name
    · subst hkey
      rw [if_pos rfl] at h
      obtain rfl := Option.some.inj h
      have hnone : rest.filter (fun entry => entry.1 = key) = [] := by
        refine List.filter_eq_nil_iff.mpr fun entry hentry => ?_
        have hne : entry.1 ≠ key := by
          rintro rfl
          exact hfresh (List.mem_map.mpr ⟨_, hentry, rfl⟩)
        simpa using hne
      simp [hnone]
    · rw [if_neg hkey] at h
      rw [List.filter_cons_of_neg (by simpa using hkey)]
      exact ih hrest h

theorem find?_cons (key : String) (value : α) (rest : List (String × α)) (name : String) :
    (mk ((key, value) :: rest)).find? name =
      if key = name then some value else (mk rest).find? name := rfl

theorem find?_eq_none_iff : table.find? name = none ↔ name ∉ table.names := by
  obtain ⟨entries⟩ := table
  induction entries with
  | nil => simp [find?, findIn, names]
  | cons entry rest ih =>
    obtain ⟨key, stored⟩ := entry
    by_cases hkey : key = name
    · simp [find?_cons, names, hkey]
    · simpa [find?_cons, names, hkey, Ne.symm hkey] using ih

theorem isSome_find?_iff : (table.find? name).isSome = true ↔ name ∈ table.names := by
  rw [← not_iff_not, ← find?_eq_none_iff, Option.not_isSome_iff_eq_none]

/-- Every entry of a table after one is written is the new one or was there. -/
theorem mem_entries_insert {entry : String × α}
    (h : entry ∈ (table.insert name value).entries) :
    entry = (name, value) ∨ entry ∈ table.entries := by
  obtain ⟨entries⟩ := table
  replace h : entry ∈ insertIn name value entries := h
  induction entries with
  | nil => exact Or.inl (List.mem_singleton.mp h)
  | cons first rest ih =>
    obtain ⟨key, stored⟩ := first
    unfold insertIn at h
    split at h
    · exact (List.mem_cons.mp h).imp_right (List.mem_cons_of_mem _)
    · rcases List.mem_cons.mp h with rfl | hrest
      · exact Or.inr List.mem_cons_self
      · exact (ih hrest).imp_right (List.mem_cons_of_mem _)

/-- Of two values written under one name, the second stays. -/
theorem insert_insert (value' : α) :
    (table.insert name value).insert name value' = table.insert name value' := by
  obtain ⟨entries⟩ := table
  refine congrArg mk ?_
  show insertIn name value' (insertIn name value entries) = insertIn name value' entries
  induction entries with
  | nil => simp [insertIn]
  | cons entry rest ih =>
    by_cases hkey : entry.1 = name
    · simp [insertIn, hkey]
    · simp [insertIn, hkey, ih]

/-- Writing a name that is there and writing another one can be done in either order. -/
theorem insert_comm (hname : name ∈ table.names) (hne : name ≠ key) (value' : α) :
    (table.insert name value).insert key value' = (table.insert key value').insert name value := by
  obtain ⟨entries⟩ := table
  refine congrArg mk ?_
  replace hname : name ∈ entries.map (·.1) := hname
  show insertIn key value' (insertIn name value entries) =
    insertIn name value (insertIn key value' entries)
  induction entries with
  | nil => cases hname
  | cons entry rest ih =>
    obtain ⟨first, stored⟩ := entry
    by_cases hfirst : first = name
    · subst hfirst
      simp [insertIn, hne]
    · have hrest : name ∈ rest.map (·.1) := by simpa [Ne.symm hfirst] using hname
      by_cases hkey : first = key
      · subst hkey
        simp [insertIn, hfirst]
      · simp [insertIn, hfirst, hkey, ih hrest]

/-! ## Other orders -/

theorem inOrder_cons {names : List String} (h : table.find? name = some value) :
    table.inOrder (name :: names) = ⟨(name, value) :: (table.inOrder names).entries⟩ := by
  simp [inOrder, h]

section

variable {names : List String} (hnames : ∀ name ∈ names, name ∈ table.names)

include hnames

/-- A table whose names are listed in another order has those that are listed, in this order. -/
theorem names_inOrder : (table.inOrder names).names = names := by
  induction names with
  | nil => rfl
  | cons first rest ih =>
    obtain ⟨hfirst, hrest⟩ := List.forall_mem_cons.mp hnames
    obtain ⟨value, hvalue⟩ :=
      Option.ne_none_iff_exists'.mp (mt find?_eq_none_iff.mp (not_not.mpr hfirst))
    rw [inOrder_cons hvalue]
    exact congrArg (first :: ·) (ih hrest)

theorem find?_inOrder_of_mem (hname : name ∈ names) :
    (table.inOrder names).find? name = table.find? name := by
  induction names with
  | nil => cases hname
  | cons first rest ih =>
    obtain ⟨hfirst, hrest⟩ := List.forall_mem_cons.mp hnames
    obtain ⟨value, hvalue⟩ :=
      Option.ne_none_iff_exists'.mp (mt find?_eq_none_iff.mp (not_not.mpr hfirst))
    rw [inOrder_cons hvalue, find?_cons]
    split
    case isTrue heq => rw [← heq, hvalue]
    case isFalse hne => exact ih hrest ((List.mem_cons.mp hname).resolve_left (Ne.symm hne))

end

/-- **The order of names does not matter for what a table has under a name.** -/
theorem find?_inOrder {names : List String} (hperm : names.Perm table.names) (name : String) :
    (table.inOrder names).find? name = table.find? name := by
  have hnames : ∀ name ∈ names, name ∈ table.names := fun _ hmem => hperm.mem_iff.mp hmem
  by_cases hname : name ∈ names
  · exact find?_inOrder_of_mem hnames hname
  · rw [find?_eq_none_iff.mpr (by rwa [names_inOrder hnames]),
      find?_eq_none_iff.mpr fun hmem => hname (hperm.mem_iff.mpr hmem)]

/-! ## Changing and merging -/

/-- Changes the value of a name, starting from a base if it has none. -/
def modify (base : α) (table : NameMap α) (name : String) (change : α → α) : NameMap α :=
  table.insert name (change ((table.find? name).getD base))

/-- Combines the values of a table with those of another one, name by name. -/
def mergeWith (base : α) (combine : α → α → α) (table other : NameMap α) : NameMap α :=
  other.entries.foldl (fun acc entry => acc.modify base entry.1 (combine · entry.2)) table

variable {base : α} {combine : α → α → α} {change : α → α}

theorem find?_modify :
    (table.modify base name change).find? key =
      if name = key then some (change ((table.find? name).getD base)) else table.find? key :=
  find?_insert table name key _

theorem modify_modify (change' : α → α) :
    (table.modify base name change).modify base name change' =
      table.modify base name fun value => change' (change value) := by
  simp only [modify, find?_insert, if_pos, insert_insert, Option.getD_some]

theorem modify_comm (hname : name ∈ table.names) (hne : name ≠ key) (change' : α → α) :
    (table.modify base name change).modify base key change' =
      (table.modify base key change').modify base name change := by
  simp only [modify, find?_insert, if_neg hne, if_neg hne.symm]
  exact insert_comm hname hne _

theorem mem_names_modify :
    key ∈ (table.modify base name change).names ↔ name = key ∨ key ∈ table.names := by
  rw [← not_iff_not, not_or, ← find?_eq_none_iff, ← find?_eq_none_iff, find?_modify]
  by_cases hkey : name = key <;> simp [hkey]

/-- **A merged table has for a name what its values combine to.**  If the second table has no name
twice, the order of its entries does not matter. -/
theorem find?_mergeWith (hnodup : other.names.Nodup) :
    (table.mergeWith base combine other).find? name =
      (other.find? name).elim (table.find? name)
        fun value => some (combine ((table.find? name).getD base) value) := by
  obtain ⟨entries⟩ := other
  show (entries.foldl _ table).find? name = _
  induction entries generalizing table with
  | nil => rfl
  | cons entry rest ih =>
    obtain ⟨key, value⟩ := entry
    obtain ⟨hfresh, hrest⟩ := List.nodup_cons.mp hnodup
    rw [List.foldl_cons, ih hrest, find?_modify, find?_cons]
    by_cases hkey : key = name
    · subst hkey
      have hnone : (mk rest).find? key = none := find?_eq_none_iff.mpr hfresh
      simp [hnone]
    · simp [hkey]

/-- A change of a name that is there, and that the second table does not have, can be made before
or after merging. -/
theorem mergeWith_of_not_mem (hname : name ∈ table.names) (hfresh : name ∉ other.names) :
    (table.modify base name change).mergeWith base combine other =
      (table.mergeWith base combine other).modify base name change := by
  obtain ⟨entries⟩ := other
  show entries.foldl _ _ = (entries.foldl _ table).modify base name change
  induction entries generalizing table with
  | nil => rfl
  | cons entry rest ih =>
    obtain ⟨hne, hrest⟩ := not_or.mp fun hor => hfresh (List.mem_cons.mpr hor)
    rw [List.foldl_cons, List.foldl_cons, modify_comm hname hne,
      ih (mem_names_modify.mpr (Or.inr hname)) hrest]

/-- **Changing an entry before merging comes to changing it afterwards.** -/
theorem mergeWith_modify (hnodup : other.names.Nodup) (hbase : ∀ value, combine value base = value)
    (hchange : ∀ value value', value' = base ∨ (∃ key, (key, value') ∈ other.entries) →
      combine value (change value') = change (combine value value')) :
    table.mergeWith base combine (other.modify base name change) =
      (table.mergeWith base combine other).modify base name change := by
  obtain ⟨entries⟩ := other
  induction entries generalizing table with
  | nil =>
    show table.modify base name (combine · (change base)) = table.modify base name change
    simp only [hchange _ base (Or.inl rfl), hbase]
  | cons entry rest ih =>
    obtain ⟨key, value⟩ := entry
    obtain ⟨hfresh, hrest⟩ := List.nodup_cons.mp hnodup
    by_cases hkey : key = name
    · subst hkey
      have hmodify : (mk ((key, value) :: rest)).modify base key change =
          mk ((key, change value) :: rest) := by
        simp [modify, insert, insertIn, find?, findIn]
      have hcombine : ∀ old, combine old (change value) = change (combine old value) :=
        fun old => hchange old value (Or.inr ⟨key, List.mem_cons_self⟩)
      have hmem : key ∈ (table.modify base key (combine · value)).names :=
        mem_names_modify.mpr (Or.inl rfl)
      rw [hmodify]
      show (table.modify base key (combine · (change value))).mergeWith base combine ⟨rest⟩ =
        ((table.modify base key (combine · value)).mergeWith base combine ⟨rest⟩).modify base key
          change
      rw [← mergeWith_of_not_mem hmem hfresh, modify_modify]
      simp only [hcombine]
    · have hmodify : (mk ((key, value) :: rest)).modify base name change =
          mk ((key, value) :: ((mk rest).modify base name change).entries) := by
        simp [modify, insert, insertIn, find?, findIn, hkey]
      rw [hmodify]
      refine ih hrest fun old value' hvalue => hchange old value' (hvalue.imp_right ?_)
      exact Exists.imp fun _ hmem => List.mem_cons_of_mem _ hmem

end NameMap

end MessageConstraints
