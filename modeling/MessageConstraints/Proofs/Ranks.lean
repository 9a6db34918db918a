import Mathlib.Tactic.Common
import MessageConstraints.Proofs.Elements
import MessageConstraints.Proofs.Listing

/-!
# Violations in order

Violations of a message are in order if they fall into groups, one for each place where a constraint
of the message is broken, and the groups follow each other strictly in the order of their ranks: by
the kind of the constraint, then by the position of the field or oneof in its type, then by the
element of the field.  A group is a single violation, or, if it is about a nested message, the block
of the violations of this, which are in order as well (`Sources.Ordered`).

Violations in order are all different, even if only their paths and kinds are looked at
(`Sources.Ordered.nodup`).  A rank is told by its kind and its place (`MessageType.Ranks.unique`);
paths into nested messages go on with a field or not at all, so that the place can be told from
a path; and what ends at a place itself is told apart by its kind.
-/

namespace MessageConstraints

open Outcome

/-! ## Ranks -/

/-- Where a group stands among those of a message.  The position is that of its field or oneof in
the type, in which fields stand by ascending number and oneofs as they are declared. -/
structure Rank where
  kind : ConstraintKind
  position : Nat
  element : Element

/-- Kinds in the order of evaluation, then positions, then elements. -/
def Rank.Before (a b : Rank) : Prop :=
  ConstraintKind.evaluationOrder.idxOf a.kind < ConstraintKind.evaluationOrder.idxOf b.kind ∨
    a.kind = b.kind ∧ (a.position < b.position ∨
      a.position = b.position ∧ a.element.Before b.element)

theorem Rank.Before.ne {a b : Rank} (h : a.Before b) : a ≠ b := by
  rintro rfl
  rcases h with hkind | ⟨-, hposition | ⟨-, helement⟩⟩
  · exact Nat.lt_irrefl _ hkind
  · exact Nat.lt_irrefl _ hposition
  · exact helement.ne rfl

/-- The rank of a place: in a field, at a oneof, or that of the message as a whole. -/
inductive MessageType.Ranks (type : MessageType) : Rank → FieldPath → Prop
  | field {kind : ConstraintKind} {position : Nat} {element : Element} {field : Field} :
      kind.target = .field → type.fields[position]? = some field → element.IsOf field.shape →
      Ranks type ⟨kind, position, element⟩ (.field field.name :: element.steps)
  | oneof {kind : ConstraintKind} {position : Nat} {oneof : Oneof} :
      kind.target = .oneof → type.oneofs[position]? = some oneof →
      Ranks type ⟨kind, position, .whole⟩ [.field oneof.name]
  | message {kind : ConstraintKind} :
      kind.target = .message → Ranks type ⟨kind, 0, .whole⟩ []

/-- Names that are all different tell positions. -/
theorem eq_of_getElem?_name {α : Type} {name : α → String} {things : List α}
    (hnodup : (things.map name).Nodup) {i j : Nat} {a b : α} (ha : things[i]? = some a)
    (hb : things[j]? = some b) (hname : name a = name b) : i = j := by
  have hi : i < (things.map name).length := by
    rw [List.length_map]
    exact (List.getElem?_eq_some_iff.mp ha).1
  refine (List.getElem?_inj hi hnodup).mp ?_
  rw [List.getElem?_map, List.getElem?_map, ha, hb, Option.map_some, Option.map_some, hname]

namespace MessageType.Ranks

variable {type : MessageType} {rank rank' : Rank} {place place' : FieldPath}

/-- A rank is told by its kind and its place. -/
theorem unique (hfields : (type.fields.map (·.name)).Nodup)
    (honeofs : (type.oneofs.map (·.name)).Nodup) (h : type.Ranks rank place)
    (h' : type.Ranks rank' place') (hkind : rank.kind = rank'.kind) (hplace : place = place') :
    rank = rank' := by
  cases h with
  | @field kind position element field htarget hfield helement =>
    cases h' with
    | @field kind' position' element' field' _ hfield' helement' =>
      obtain ⟨hname, hsteps⟩ := List.cons.inj hplace
      obtain rfl : kind = kind' := hkind
      obtain rfl := eq_of_getElem?_name hfields hfield hfield' (Segment.field.inj hname)
      obtain rfl : field = field' := Option.some.inj (hfield.symm.trans hfield')
      rw [Element.steps_injective helement helement' hsteps]
    | oneof htarget' =>
      cases htarget.symm.trans ((congrArg ConstraintKind.target hkind).trans htarget')
    | message => cases hplace
  | @oneof kind position oneof htarget honeof =>
    cases h' with
    | field htarget' =>
      cases htarget.symm.trans ((congrArg ConstraintKind.target hkind).trans htarget')
    | @oneof kind' position' oneof' _ honeof' =>
      obtain ⟨hname, -⟩ := List.cons.inj hplace
      obtain rfl : kind = kind' := hkind
      rw [eq_of_getElem?_name honeofs honeof honeof' (Segment.field.inj hname)]
    | message => cases hplace
  | message htarget =>
    cases h' with
    | field => cases hplace
    | oneof => cases hplace
    | message => exact congrArg (Rank.mk · 0 .whole) hkind

/-- Only the constraint on the message as a whole has its place at no field. -/
theorem eq_nil_iff (h : type.Ranks rank place) : place = [] ↔ rank.kind = .combination := by
  cases h with
  | @field kind _ _ _ htarget =>
    refine iff_of_false (by simp) fun hkind => ?_
    obtain rfl : kind = .combination := hkind
    cases htarget
  | @oneof kind _ _ htarget =>
    refine iff_of_false (by simp) fun hkind => ?_
    obtain rfl : kind = .combination := hkind
    cases htarget
  | @message kind htarget =>
    refine ⟨fun _ => ?_, fun _ => rfl⟩
    cases kind <;> first | rfl | cases htarget

/-- A place has one step to a field, and that comes first. -/
theorem place_eq (h : type.Ranks rank place) :
    place = [] ∨ ∃ name steps, place = .field name :: steps ∧ ∀ other, .field other ∉ steps := by
  cases h with
  | field => exact Or.inr ⟨_, _, rfl, Element.not_field_mem_steps⟩
  | oneof => exact Or.inr ⟨_, _, rfl, fun _ => List.not_mem_nil⟩
  | message => exact Or.inl rfl

end MessageType.Ranks

/-! ## Violations in order -/

/-- The violations of a message are in order, with the ranks of their groups. -/
inductive Sources.Ordered (sources : Sources) (pool : Nat) :
    Message → List Rank → List Violation → Prop
  | nil {message : Message} : Ordered sources pool message [] []
  | own {message : Message} {type : MessageType} {rank : Rank} {ranks : List Rank} {v : Violation}
      {vs : List Violation} :
      sources.catalog.type? ⟨pool, message.typeName⟩ = some type → type.Ranks rank v.path →
      v.kind = rank.kind → rank.kind ≠ .recurse → (∀ later ∈ ranks, rank.Before later) →
      Ordered sources pool message ranks vs →
      Ordered sources pool message (rank :: ranks) (v :: vs)
  | nested {message nested : Message} {type : MessageType} {rank : Rank} {place : FieldPath}
      {innerRanks ranks : List Rank} {inner vs : List Violation} :
      sources.catalog.type? ⟨pool, message.typeName⟩ = some type → type.Ranks rank place →
      rank.kind = .recurse →
      sources.Descends pool message.typeName message place nested.typeName nested →
      inner ≠ [] → Ordered sources pool nested innerRanks inner →
      (∀ later ∈ ranks, rank.Before later) → Ordered sources pool message ranks vs →
      Ordered sources pool message (rank :: ranks)
        (Violation.block message.typeName place inner ++ vs)

namespace Sources.Ordered

variable {sources : Sources} {pool : Nat} {message : Message} {type : MessageType}
  {ranks ranks' : List Rank} {vs vs' : List Violation}

theorem append (h : sources.Ordered pool message ranks vs)
    (h' : sources.Ordered pool message ranks' vs')
    (hbefore : ∀ rank ∈ ranks, ∀ rank' ∈ ranks', rank.Before rank') :
    sources.Ordered pool message (ranks ++ ranks') (vs ++ vs') := by
  induction h with
  | nil => exact h'
  | own htype hrank hkind hown hlater _ ih =>
    refine .own htype hrank hkind hown (fun later hmem => ?_)
      (ih h' fun rank hmem => hbefore rank (List.mem_cons_of_mem _ hmem))
    rcases List.mem_append.mp hmem with hfirst | hsecond
    · exact hlater later hfirst
    · exact hbefore _ List.mem_cons_self later hsecond
  | nested htype hrank hkind hdescends hne hinner hlater _ _ ih =>
    rw [List.append_assoc]
    refine .nested htype hrank hkind hdescends hne hinner (fun later hmem => ?_)
      (ih h' fun rank hmem => hbefore rank (List.mem_cons_of_mem _ hmem))
    rcases List.mem_append.mp hmem with hfirst | hsecond
    · exact hlater later hfirst
    · exact hbefore _ List.mem_cons_self later hsecond

/-- What some things contribute is in order if it is for each of them, and the things come in the
order of the ranks that they contribute to. -/
theorem flatMap {α : Type} {things : List α} {covers : α → Rank → Prop} {f : α → List Violation}
    (h : ∀ a ∈ things, ∃ ranks, sources.Ordered pool message ranks (f a) ∧
      ∀ rank ∈ ranks, covers a rank)
    (hbefore : things.Pairwise fun a b => ∀ rank rank', covers a rank → covers b rank' →
      rank.Before rank') :
    ∃ ranks, sources.Ordered pool message ranks (things.flatMap f) ∧
      ∀ rank ∈ ranks, ∃ a ∈ things, covers a rank := by
  induction things with
  | nil => exact ⟨[], .nil, by simp⟩
  | cons a rest ih =>
    obtain ⟨hfirst, hrest⟩ := List.pairwise_cons.mp hbefore
    obtain ⟨ranks, hordered, hranks⟩ := h a List.mem_cons_self
    obtain ⟨ranks', hordered', hranks'⟩ := ih (fun b hb => h b (List.mem_cons_of_mem a hb)) hrest
    refine ⟨ranks ++ ranks', hordered.append hordered' fun rank hrank rank' hrank' => ?_, ?_⟩
    · obtain ⟨b, hb, hcovers⟩ := hranks' rank' hrank'
      exact hfirst b hb rank rank' (hranks rank hrank) hcovers
    · intro rank hrank
      rcases List.mem_append.mp hrank with hmem | hmem
      · exact ⟨a, List.mem_cons_self, hranks rank hmem⟩
      · obtain ⟨b, hb, hcovers⟩ := hranks' rank hmem
        exact ⟨b, List.mem_cons_of_mem a hb, hcovers⟩

end Sources.Ordered

/-! ## Violations in order are different -/

/-- A path goes on from a place with a field, or not at all. -/
def FieldPath.Continues (path : FieldPath) : Prop :=
  path = [] ∨ ∃ name steps, path = .field name :: steps

/-- Steps inside a field are told from what continues after them. -/
theorem FieldPath.Continues.append_inj {steps steps' inner inner' : FieldPath}
    (hinner : inner.Continues) (hinner' : inner'.Continues) (hsteps : ∀ name, .field name ∉ steps)
    (hsteps' : ∀ name, .field name ∉ steps') (h : steps ++ inner = steps' ++ inner') :
    steps = steps' ∧ inner = inner' := by
  induction steps generalizing steps' with
  | nil =>
    cases steps' with
    | nil => exact ⟨rfl, h⟩
    | cons step rest =>
      rcases hinner with rfl | ⟨name, _, rfl⟩
      · cases h
      · exact absurd ((List.cons.inj h).1 ▸ List.mem_cons_self) (hsteps' name)
  | cons first rest ih =>
    cases steps' with
    | nil =>
      rcases hinner' with rfl | ⟨name, _, rfl⟩
      · cases h
      · exact absurd ((List.cons.inj h).1 ▸ List.mem_cons_self) (hsteps name)
    | cons step rest' =>
      obtain ⟨rfl, hrest⟩ := List.cons.inj h
      obtain ⟨rfl, rfl⟩ := ih (fun name hmem => hsteps name (List.mem_cons_of_mem _ hmem))
        (fun name hmem => hsteps' name (List.mem_cons_of_mem _ hmem)) hrest
      exact ⟨rfl, rfl⟩

/-- A violation belongs to the group of a rank: it is at the place, and of the kind, of the rank, or
the place is one of a nested message, and it is one of this. -/
def MessageType.Covers (type : MessageType) (rank : Rank) (v : Violation) : Prop :=
  ∃ place inner, type.Ranks rank place ∧ v.path = place ++ inner ∧
    ((inner = [] ∧ v.kind = rank.kind) ∨ (rank.kind = .recurse ∧
      ((inner = [] ∧ v.kind = .combination) ∨ ∃ name steps, inner = .field name :: steps)))

/-- Places are told from paths that go on from them, as long as they go on from fields only. -/
theorem MessageType.Ranks.append_inj {type : MessageType} {rank rank' : Rank}
    {place place' inner inner' : FieldPath} (h : type.Ranks rank place)
    (h' : type.Ranks rank' place') (hinner : inner.Continues) (hinner' : inner'.Continues)
    (hwhole : place = [] → inner = []) (hwhole' : place' = [] → inner' = [])
    (heq : place ++ inner = place' ++ inner') : place = place' ∧ inner = inner' := by
  rcases h.place_eq with rfl | ⟨name, steps, rfl, hsteps⟩
  · rw [hwhole rfl] at heq ⊢
    obtain ⟨rfl, rfl⟩ := List.append_eq_nil_iff.mp heq.symm
    exact ⟨rfl, rfl⟩
  · rcases h'.place_eq with rfl | ⟨name', steps', rfl, hsteps'⟩
    · rw [hwhole' rfl] at heq
      cases heq
    · obtain ⟨hname, hrest⟩ := List.cons.inj heq
      obtain ⟨rfl, rfl⟩ := hinner.append_inj hinner' hsteps hsteps' hrest
      exact ⟨by rw [hname], rfl⟩

namespace MessageType.Covers

variable {type : MessageType} {rank rank' : Rank} {v v' : Violation}

/-- A violation of a group lies at the place of the group, or goes on from it with a field. -/
theorem exists_place (h : type.Covers rank v) :
    ∃ place inner, type.Ranks rank place ∧ v.path = place ++ inner ∧ inner.Continues ∧
      (place = [] → inner = []) ∧
      (v.kind = rank.kind ∧ inner = [] ∨
        rank.kind = .recurse ∧ (inner = [] → v.kind = .combination)) := by
  obtain ⟨place, inner, hrank, hpath, ⟨hnil, hkind⟩ | ⟨hrecurse, hinside⟩⟩ := h
  · exact ⟨place, inner, hrank, hpath, Or.inl hnil, fun _ => hnil, Or.inl ⟨hkind, hnil⟩⟩
  · -- A constraint on the message as a whole does not ask for recursion.
    have hplace : place ≠ [] := by
      intro hnil
      cases hrecurse.symm.trans (hrank.eq_nil_iff.mp hnil)
    refine ⟨place, inner, hrank, hpath, ?_, fun hnil => absurd hnil hplace, Or.inr ⟨hrecurse, ?_⟩⟩
    · exact hinside.imp_left And.left
    · rintro rfl
      rcases hinside with ⟨-, hcombination⟩ | ⟨name, steps, hfield⟩
      · exact hcombination
      · cases hfield

/-- Violations in different groups differ in their paths or their kinds. -/
theorem eq_of_eq (hfields : (type.fields.map (·.name)).Nodup)
    (honeofs : (type.oneofs.map (·.name)).Nodup) (h : type.Covers rank v)
    (h' : type.Covers rank' v') (hpath : v.path = v'.path) (hkind : v.kind = v'.kind) :
    rank = rank' := by
  obtain ⟨place, inner, hrank, hv, hcontinues, hwhole, hgroup⟩ := h.exists_place
  obtain ⟨place', inner', hrank', hv', hcontinues', hwhole', hgroup'⟩ := h'.exists_place
  obtain ⟨rfl, rfl⟩ := hrank.append_inj hrank' hcontinues hcontinues' hwhole hwhole'
    (by rw [← hv, ← hv', hpath])
  refine hrank.unique hfields honeofs hrank' ?_ rfl
  rcases hgroup with ⟨hown, hnil⟩ | ⟨hrecurse, hinside⟩
  · rcases hgroup' with ⟨hown', -⟩ | ⟨hrecurse', hinside'⟩
    · rw [← hown, ← hown', hkind]
    · -- What ends at a place inside is of the message as a whole, and no constraint on a field is.
      have hplace := hrank.eq_nil_iff.mpr (by rw [← hown, hkind, hinside' hnil])
      cases hrecurse'.symm.trans (hrank'.eq_nil_iff.mp hplace)
  · rcases hgroup' with ⟨hown', hnil⟩ | ⟨hrecurse', -⟩
    · have hplace := hrank'.eq_nil_iff.mpr (by rw [← hown', ← hkind, hinside hnil])
      cases hrecurse.symm.trans (hrank.eq_nil_iff.mp hplace)
    · rw [hrecurse, hrecurse']

end MessageType.Covers

namespace MessageType.Ranks

variable {type : MessageType} {rank : Rank} {place : FieldPath}

theorem covers {v : Violation} (hrank : type.Ranks rank v.path) (hkind : v.kind = rank.kind) :
    type.Covers rank v :=
  ⟨v.path, [], hrank, (List.append_nil _).symm, Or.inl ⟨rfl, hkind⟩⟩

/-- A block belongs to the group of its place. -/
theorem covers_block (hrank : type.Ranks rank place) (hkind : rank.kind = .recurse)
    {inner : List Violation} (hinner : ∀ v ∈ inner, (v.path = [] ∧ v.kind = .combination) ∨
      ∃ name steps, v.path = .field name :: steps) (typeName : String) :
    ∀ v ∈ Violation.block typeName place inner, type.Covers rank v := by
  intro v hv
  rcases Violation.path_of_mem_block hv with rfl | ⟨u, hu, rfl⟩
  · exact hrank.covers hkind.symm
  · exact ⟨place, u.path, hrank, rfl, Or.inr ⟨hkind, hinner u hu⟩⟩

end MessageType.Ranks

/-- The violations of a block differ in their paths or their kinds if those of the nested message
do. -/
theorem Violation.nodup_block {vs : List Violation}
    (hnodup : (vs.map fun v => (v.path, v.kind)).Nodup)
    (hnil : ∀ v ∈ vs, v.path = [] → v.kind ≠ .recurse) (typeName : String) (place : FieldPath) :
    ((block typeName place vs).map fun v => (v.path, v.kind)).Nodup := by
  cases vs with
  | nil => exact List.nodup_nil
  | cons first rest =>
    unfold block
    rw [List.map_cons, List.nodup_cons, List.map_map]
    constructor
    · intro hmem
      obtain ⟨inner, hinner, heq⟩ := List.mem_map.mp hmem
      obtain ⟨hpath, hkind⟩ := Prod.mk.inj heq
      exact hnil inner hinner (List.append_right_eq_self.mp hpath) hkind
    · have hmap : ((first :: rest).map ((fun v => (v.path, v.kind)) ∘
          fun inner => (inner.below place).inMessage typeName)) =
          ((first :: rest).map fun v => (v.path, v.kind)).map fun p => (place ++ p.1, p.2) := by
        rw [List.map_map]
        rfl
      rw [hmap]
      refine hnodup.map fun p q heq => ?_
      obtain ⟨hpath, hkind⟩ := Prod.mk.inj heq
      exact Prod.ext (List.append_cancel_left hpath) hkind

namespace Sources.Ordered

variable {sources : Sources} {pool : Nat} {message : Message} {type : MessageType}
  {ranks : List Rank} {vs : List Violation}

/-- Violations without a path are of the constraint on the message as a whole, and all other paths
begin with a field. -/
theorem path_eq (h : sources.Ordered pool message ranks vs) :
    ∀ v ∈ vs, (v.path = [] ∧ v.kind = .combination) ∨
      ∃ name steps, v.path = .field name :: steps := by
  induction h with
  | nil => simp
  | own _ hrank hkind _ _ _ ih =>
    refine List.forall_mem_cons.mpr ⟨?_, ih⟩
    rcases hrank.place_eq with hplace | ⟨name, steps, hplace, -⟩
    · exact Or.inl ⟨hplace, hkind.trans (hrank.eq_nil_iff.mp hplace)⟩
    · exact Or.inr ⟨name, steps, hplace⟩
  | nested _ hrank hkind _ _ _ _ _ _ ih =>
    refine List.forall_mem_append.mpr ⟨fun v hv => ?_, ih⟩
    obtain ⟨rest, hrest⟩ := Violation.place_isPrefix_of_mem_block hv
    rcases hrank.place_eq with hplace | ⟨name, steps, rfl, -⟩
    · cases hkind.symm.trans (hrank.eq_nil_iff.mp hplace)
    · exact Or.inr ⟨name, steps ++ rest, hrest.symm⟩

/-- Every violation belongs to a group. -/
theorem exists_covers (h : sources.Ordered pool message ranks vs)
    (htype : sources.catalog.type? ⟨pool, message.typeName⟩ = some type) :
    ∀ v ∈ vs, ∃ rank ∈ ranks, type.Covers rank v := by
  induction h with
  | nil => simp
  | @own _ _ rank _ _ _ htype' hrank hkind _ _ _ ih =>
    obtain rfl := Option.some.inj (htype'.symm.trans htype)
    refine List.forall_mem_cons.mpr ⟨⟨rank, List.mem_cons_self, hrank.covers hkind⟩, ?_⟩
    intro w hw
    obtain ⟨later, hmem, hcovers⟩ := ih htype w hw
    exact ⟨later, List.mem_cons_of_mem _ hmem, hcovers⟩
  | @nested _ _ _ rank _ _ _ _ _ htype' hrank hkind _ _ hinner _ _ _ ih =>
    obtain rfl := Option.some.inj (htype'.symm.trans htype)
    refine List.forall_mem_append.mpr ⟨fun v hv => ⟨rank, List.mem_cons_self, ?_⟩, ?_⟩
    · exact hrank.covers_block hkind hinner.path_eq _ v hv
    · intro w hw
      obtain ⟨later, hmem, hcovers⟩ := ih htype w hw
      exact ⟨later, List.mem_cons_of_mem _ hmem, hcovers⟩

/-- A violation in the group of a rank is none of those in later groups. -/
theorem ne_of_covers (hlinked : sources.catalog.Linked pool)
    (h : sources.Ordered pool message ranks vs)
    (htype : sources.catalog.type? ⟨pool, message.typeName⟩ = some type) {rank : Rank}
    (hlater : ∀ later ∈ ranks, rank.Before later) {v w : Violation} (hv : type.Covers rank v)
    (hw : w ∈ vs) : (v.path, v.kind) ≠ (w.path, w.kind) := by
  intro heq
  obtain ⟨hpath, hkind⟩ := Prod.mk.inj heq
  obtain ⟨later, hmem, hcovers⟩ := h.exists_covers htype w hw
  have hsame : rank = later := hv.eq_of_eq (hlinked.field_names _ _ htype)
    (hlinked.oneof_names _ _ htype) hcovers hpath hkind
  exact (hlater later hmem).ne hsame

/-- **Violations in order differ in their paths or their kinds.** -/
theorem nodup (hlinked : sources.catalog.Linked pool)
    (h : sources.Ordered pool message ranks vs) :
    (vs.map fun v => (v.path, v.kind)).Nodup := by
  induction h with
  | nil => exact List.nodup_nil
  | own htype hrank hkind _ hlater hrest ih =>
    refine List.nodup_cons.mpr ⟨fun hmem => ?_, ih⟩
    obtain ⟨w, hw, heq⟩ := List.mem_map.mp hmem
    exact hrest.ne_of_covers hlinked htype hlater (hrank.covers hkind) hw heq.symm
  | nested htype hrank hkind _ _ hinner hlater hrest ihInner ih =>
    rw [List.map_append]
    refine List.Nodup.append ?_ ih ?_
    · refine Violation.nodup_block ihInner (fun u hu hpath => ?_) _ _
      rcases hinner.path_eq u hu with ⟨-, hcombination⟩ | ⟨name, steps, hfield⟩
      · rw [hcombination]
        decide
      · cases hpath.symm.trans hfield
    · intro pair hfirst hsecond
      obtain ⟨v, hv, rfl⟩ := List.mem_map.mp hfirst
      obtain ⟨w, hw, heq⟩ := List.mem_map.mp hsecond
      have hcovers := hrank.covers_block hkind hinner.path_eq _ v hv
      exact hrest.ne_of_covers hlinked htype hlater hcovers hw heq.symm

end Sources.Ordered

end MessageConstraints
