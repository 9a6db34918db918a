import Mathlib
import MessageConstraints.Proofs.Linked

/-!
# The elements of a field

A place in a field is the field as a whole, an index of a list or a key of a map (`Element`).  The
elements of one field have an order: indices ascend, and of keys, false comes before true, numbers
go by size and texts by code points.  A message fits a field if the nested messages that it holds in
it are of the declared type, and the keys of a map as well, each of them once (`Field.Fits`).  Then
different elements have different places (`Element.steps_injective`), and a check comes upon the
nested messages of a field in the order of their elements (`Check.nestedMessages_ascending`).
-/

namespace MessageConstraints

/-! ## Keys -/

namespace MapKey

/-- A key is one of a scalar type. -/
def IsOf : MapKey → ScalarType → Prop
  | bool _, .bool => True
  | int32 _, .int32 | int32 _, .sint32 | int32 _, .sfixed32 => True
  | int64 _, .int64 | int64 _, .sint64 | int64 _, .sfixed64 => True
  | uint32 _, .uint32 | uint32 _, .fixed32 => True
  | uint64 _, .uint64 | uint64 _, .fixed64 => True
  | string _, .string => True
  | _, _ => False

/-- The order of the keys of one type: false before true, numbers by size, texts by code points. -/
def Before : MapKey → MapKey → Prop
  | bool a, bool b => a = false ∧ b = true
  | int32 a, int32 b => a < b
  | int64 a, int64 b => a < b
  | uint32 a, uint32 b => a < b
  | uint64 a, uint64 b => a < b
  | string a, string b => a < b
  | _, _ => False

variable {a b c : MapKey} {type : ScalarType}

/-- Two keys of one type are written in the same way. -/
inductive Alike : MapKey → MapKey → Prop
  | bool (a b : Bool) : Alike (.bool a) (.bool b)
  | int32 (a b : Int32) : Alike (.int32 a) (.int32 b)
  | int64 (a b : Int64) : Alike (.int64 a) (.int64 b)
  | uint32 (a b : UInt32) : Alike (.uint32 a) (.uint32 b)
  | uint64 (a b : UInt64) : Alike (.uint64 a) (.uint64 b)
  | string (a b : String) : Alike (.string a) (.string b)

theorem alike_of_isOf (ha : a.IsOf type) (hb : b.IsOf type) : Alike a b := by
  cases type <;> cases a <;> first
    | exact ha.elim
    | (cases b <;> first | exact hb.elim | constructor)

/-- Keys of one type have different texts. -/
theorem text_injective (ha : a.IsOf type) (hb : b.IsOf type) (htext : a.text = b.text) : a = b := by
  cases alike_of_isOf ha hb with
  | bool a b => cases a <;> cases b <;> first | rfl | exact absurd htext (by decide)
  | int32 a b => rw [Int32.toInt_inj.mp (Int.repr_injective htext)]
  | int64 a b => rw [Int64.toInt_inj.mp (Int.repr_injective htext)]
  | uint32 a b => rw [UInt32.toNat_inj.mp (Nat.repr_injective htext)]
  | uint64 a b => rw [UInt64.toNat_inj.mp (Nat.repr_injective htext)]
  | string a b => exact congrArg string htext

theorem Before.ne (h : a.Before b) : a ≠ b := by
  rintro rfl
  cases a with
  | bool a => exact absurd (h.1.symm.trans h.2) (by decide)
  | int32 a => exact Int32.lt_irrefl h
  | int64 a => exact Int64.lt_irrefl h
  | uint32 a => exact UInt32.lt_irrefl a h
  | uint64 a => exact UInt64.lt_irrefl a h
  | string a => exact String.lt_irrefl a h

/-! The order in which a map is sorted is one of all keys, by kind first. -/

theorem le_iff : a.le b = true ↔ a.kind < b.kind ∨ a.kind = b.kind ∧
    (a.number < b.number ∨ a.number = b.number ∧ a.word ≤ b.word) := by
  simp [le]

theorem le_trans (hab : a.le b = true) (hbc : b.le c = true) : a.le c = true := by
  rw [le_iff] at *
  rcases hab with hkind | ⟨hkind, hnumber | ⟨hnumber, hword⟩⟩
  · exact Or.inl (by omega)
  · rcases hbc with hkind' | ⟨hkind', hnumber' | ⟨hnumber', -⟩⟩
    · exact Or.inl (by omega)
    · exact Or.inr ⟨by omega, Or.inl (by omega)⟩
    · exact Or.inr ⟨by omega, Or.inl (by omega)⟩
  · rcases hbc with hkind' | ⟨hkind', hnumber' | ⟨hnumber', hword'⟩⟩
    · exact Or.inl (by omega)
    · exact Or.inr ⟨by omega, Or.inl (by omega)⟩
    · exact Or.inr ⟨by omega, Or.inr ⟨by omega, String.le_trans hword hword'⟩⟩

theorem le_total : (a.le b || b.le a) = true := by
  rw [Bool.or_eq_true, le_iff, le_iff]
  by_cases hkind : a.kind = b.kind
  · by_cases hnumber : a.number = b.number
    · exact (String.le_total a.word b.word).imp
        (fun hword => Or.inr ⟨hkind, Or.inr ⟨hnumber, hword⟩⟩)
        (fun hword => Or.inr ⟨hkind.symm, Or.inr ⟨hnumber.symm, hword⟩⟩)
    · omega
  · omega

/-- Among different keys of one type, sorting puts in front what comes before. -/
theorem before_of_le (ha : a.IsOf type) (hb : b.IsOf type) (hne : a ≠ b) (hle : a.le b = true) :
    a.Before b := by
  rw [le_iff] at hle
  cases alike_of_isOf ha hb with
  | bool a b => cases a <;> cases b <;> simp_all [kind, number, word, Before]
  | int32 a b => simp_all [kind, number, word, Before, Int32.lt_iff_toInt_lt, ← Int32.toInt_inj]
  | int64 a b => simp_all [kind, number, word, Before, Int64.lt_iff_toInt_lt, ← Int64.toInt_inj]
  | uint32 a b => simp_all [kind, number, word, Before, UInt32.lt_iff_toNat_lt, ← UInt32.toNat_inj]
  | uint64 a b => simp_all [kind, number, word, Before, UInt64.lt_iff_toNat_lt, ← UInt64.toNat_inj]
  | string a b =>
    have hword : a ≤ b := by simpa [kind, number, word] using hle
    have hne' : a ≠ b := fun heq => hne (congrArg string heq)
    exact lt_of_le_of_ne hword hne'

end MapKey

/-! ## Elements -/

/-- A place in a field: the field as a whole, an index of a list, or a key of a map. -/
inductive Element where
  | whole
  | index (position : Nat)
  | entry (key : MapKey)

namespace Element

/-- The steps from a field to an element. -/
def steps : Element → FieldPath
  | whole => []
  | index position => [.index position]
  | entry key => [.key key.text]

/-- The order of the elements of one field. -/
def Before : Element → Element → Prop
  | index m, index n => m < n
  | entry a, entry b => a.Before b
  | _, _ => False

/-- An element may be one of a field of a shape: a key is of the type of the keys. -/
def IsOf (shape : FieldShape) : Element → Prop
  | entry key => ∃ type, shape = .map type ∧ key.IsOf type
  | _ => True

variable {a b : Element} {shape : FieldShape}

theorem steps_injective (ha : a.IsOf shape) (hb : b.IsOf shape) (hsteps : a.steps = b.steps) :
    a = b := by
  cases a <;> cases b <;> simp only [steps, List.cons.injEq, reduceCtorEq, Segment.index.injEq,
    Segment.key.injEq, and_true] at hsteps
  case whole.whole => rfl
  case index.index => rw [hsteps]
  case entry.entry a b =>
    obtain ⟨type, rfl, htype⟩ := ha
    obtain ⟨type', heq, htype'⟩ := hb
    obtain rfl := FieldShape.map.inj heq
    rw [MapKey.text_injective htype htype' hsteps]

theorem Before.ne (h : a.Before b) : a ≠ b := by
  rintro rfl
  cases a with
  | whole => exact h
  | index m => exact Nat.lt_irrefl m h
  | entry key => exact MapKey.Before.ne h rfl

/-- No step inside a field is one to a field. -/
theorem not_field_mem_steps (name : String) : .field name ∉ a.steps := by
  cases a <;> simp [steps]

end Element

/-! ## Messages that fit -/

/-- A message holds in a field what is declared, as far as nested messages are concerned: they are
of the declared type, and a map has keys of the declared type, each of them once. -/
structure Field.Fits (field : Field) (message : Message) : Prop where
  nested_type : ∀ place nested, field.Nests message place nested →
    field.nested? = some nested.typeName
  keys : ∀ type entries, field.shape = .map type → message.get field = .map entries →
    (entries.map (·.1)).Nodup ∧ ∀ entry ∈ entries, entry.1.IsOf type

/-- A message fits the fields of its type. -/
def Sources.Conforms (sources : Sources) (pool : Nat) (message : Message) : Prop :=
  ∀ type, sources.catalog.type? ⟨pool, message.typeName⟩ = some type →
    ∀ field ∈ type.fields, field.Fits message

/-- A map sorted by its keys has them in their order. -/
theorem Field.Fits.ascending {field : Field} {message : Message} (hfits : field.Fits message)
    {type : ScalarType} (hshape : field.shape = .map type) {entries : List (MapKey × Value)}
    (hmap : message.get field = .map entries) :
    (entries.mergeSort fun a b => a.1.le b.1).Pairwise (fun a b => a.1.Before b.1) := by
  obtain ⟨hnodup, htype⟩ := hfits.keys type entries hshape hmap
  have hsorted : (entries.mergeSort fun a b => a.1.le b.1).Pairwise
      (fun a b => a.1.le b.1 = true) :=
    @List.pairwise_mergeSort _ (fun a b => a.1.le b.1) (fun _ _ _ => MapKey.le_trans)
      (fun _ _ => MapKey.le_total) entries
  have hdifferent : (entries.mergeSort fun a b => a.1.le b.1).Pairwise (fun a b => a.1 ≠ b.1) := by
    have hperm := (List.mergeSort_perm entries fun a b => a.1.le b.1).map (·.1)
    exact List.pairwise_map.mp (hperm.nodup_iff.mpr hnodup)
  refine (hsorted.and hdifferent).imp_of_mem fun {a b} ha hb hle => ?_
  have ha' := htype a (List.mem_mergeSort.mp ha)
  have hb' := htype b (List.mem_mergeSort.mp hb)
  exact MapKey.before_of_le ha' hb' hle.2 hle.1

/-- Some nested messages, with the steps that lead to them from a field, are those of elements of
the field that ascend. -/
def Field.Ascending (field : Field) (nested : List (FieldPath × Message)) : Prop :=
  ∃ entries : List (Element × Message),
    nested = entries.map (fun entry => (entry.1.steps, entry.2)) ∧
    entries.Pairwise (fun a b => a.1.Before b.1) ∧ ∀ entry ∈ entries, entry.1.IsOf field.shape

/-- The messages among things at ascending elements are at ascending elements. -/
theorem Field.ascending_filterMap {field : Field} {α : Type} {things : List α}
    {element : α → Element} {message? : α → Option Message}
    (hbefore : things.Pairwise fun a b => (element a).Before (element b))
    (hshape : ∀ a ∈ things, (element a).IsOf field.shape) :
    field.Ascending (things.filterMap fun a =>
      (message? a).map fun nested => ((element a).steps, nested)) := by
  refine ⟨things.filterMap fun a => (message? a).map fun nested => (element a, nested), ?_, ?_, ?_⟩
  · simp [List.map_filterMap, Function.comp_def]
  · refine List.pairwise_filterMap.mpr (hbefore.imp fun {a b} hlt => ?_)
    intro entry hentry entry' hentry'
    obtain ⟨nested, -, rfl⟩ := Option.map_eq_some_iff.mp hentry
    obtain ⟨nested', -, rfl⟩ := Option.map_eq_some_iff.mp hentry'
    exact hlt
  · intro entry hentry
    obtain ⟨a, ha, hnested⟩ := List.mem_filterMap.mp hentry
    obtain ⟨nested, -, rfl⟩ := Option.map_eq_some_iff.mp hnested
    exact hshape a ha

/-- A check comes upon nested messages in the order of their elements. -/
theorem Check.nestedMessages_ascending {field : Field} {message : Message}
    (hfits : field.Fits message) : field.Ascending (nestedMessages field message) := by
  have hnone : field.Ascending [] := ⟨[], rfl, List.Pairwise.nil, by simp⟩
  unfold nestedMessages
  split
  case h_1 =>
    split
    case h_1 typeName fields _ =>
      refine ⟨[(.whole, ⟨typeName, fields⟩)], rfl, List.pairwise_singleton _ _, ?_⟩
      intro entry hentry
      rw [List.mem_singleton.mp hentry]
      trivial
    case h_2 => exact hnone
  case h_2 =>
    split
    case h_1 items _ =>
      have hbefore : items.zipIdx.Pairwise fun a b =>
          (Element.index a.2).Before (Element.index b.2) := pairwise_zipIdx items
      exact Field.ascending_filterMap hbefore fun _ _ => trivial
    case h_2 => exact hnone
  case h_3 type hshape =>
    split
    case h_1 entries hmap =>
      have hbefore : (entries.mergeSort fun a b => a.1.le b.1).Pairwise fun a b =>
          (Element.entry a.1).Before (Element.entry b.1) := hfits.ascending hshape hmap
      refine Field.ascending_filterMap hbefore fun stored hstored => ?_
      exact ⟨type, hshape, (hfits.keys type entries hshape hmap).2 stored
        (List.mem_mergeSort.mp hstored)⟩
    case h_2 => exact hnone

end MessageConstraints
