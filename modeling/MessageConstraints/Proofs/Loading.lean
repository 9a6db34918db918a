import Mathlib.Data.List.Forall2
import Mathlib.Tactic.Common
import MessageConstraints.Proofs.Collecting
import MessageConstraints.Proofs.Linked
import MessageConstraints.Proofs.OptionValues
import MessageConstraints.Proofs.Refusal

/-!
# Loading constraints from options

A registry knows the options of its package, and each of them by one full name.  What one setting
among the options of an element comes to is one of three things: it is no concern of the registry,
it declares a constraint, or it is refused (`OptionSetting.constraint?_eq_ok_iff`,
`OptionSetting.refused_iff`).  Options load if none of their settings is refused, and the set that
comes of it has what they declare (`ConstraintSet.addOptions_eq_ok_iff`), for each kind the last.
-/

namespace MessageConstraints

variable {registry : Registry} {pool : Pool} {target : Target} {owner : String}
  {kind : ConstraintKind}

/-! ## Names of a package -/

namespace Registry

/-- The full names of the options that a registry knows, whether it reads or refuses them. -/
def names (registry : Registry) : List String :=
  ConstraintKind.evaluationOrder.map registry.optionName ++
    ["once", "immutable"].map registry.qualify

theorem optionName_mem_names (registry : Registry) (kind : ConstraintKind) :
    registry.optionName kind ∈ registry.names :=
  List.mem_append_left _ (List.mem_map_of_mem kind.mem_evaluationOrder)

theorem qualify_injective {name other : String}
    (h : registry.qualify name = registry.qualify other) : name = other := by
  unfold qualify at h
  split at h
  case isTrue => exact h
  case isFalse => exact (String.append_right_inj _).mp h

theorem optionName_injective {other : ConstraintKind}
    (h : registry.optionName kind = registry.optionName other) : kind = other :=
  ConstraintKind.optionName_injective (qualify_injective h)

variable {fullName : String}

theorem any_statefulOptions_iff :
    (statefulOptions.any fun name => registry.qualify name = fullName) = true ↔
      fullName = registry.qualify "once" ∨ fullName = registry.qualify "immutable" := by
  simp [statefulOptions, @eq_comm _ fullName]

/-- No kind has the name of an option that is refused. -/
theorem optionName_ne_stateful :
    registry.optionName kind ≠ registry.qualify "once" ∧
      registry.optionName kind ≠ registry.qualify "immutable" := by
  refine ⟨fun h => ?_, fun h => ?_⟩
  · exact absurd (qualify_injective h) (by cases kind <;> decide)
  · exact absurd (qualify_injective h) (by cases kind <;> decide)

theorem find?_optionName_eq_some_iff :
    (ConstraintKind.evaluationOrder.find? fun kind => registry.optionName kind = fullName) =
      some kind ↔ fullName = registry.optionName kind := by
  constructor
  · intro h
    have hsame := List.find?_some h
    exact (of_decide_eq_true hsame).symm
  · rintro rfl
    cases hfound : ConstraintKind.evaluationOrder.find? fun other =>
        registry.optionName other = registry.optionName kind with
    | none =>
      have hno := List.find?_eq_none.mp hfound kind kind.mem_evaluationOrder
      simp at hno
    | some other =>
      have hsame := List.find?_some hfound
      rw [optionName_injective (of_decide_eq_true hsame)]

/-! What a name stands for in a registry. -/

theorem lookup_eq_unsupported_iff :
    registry.lookup fullName = some .unsupported ↔
      fullName = registry.qualify "once" ∨ fullName = registry.qualify "immutable" := by
  rw [← any_statefulOptions_iff]
  unfold lookup
  split <;> simp_all

theorem lookup_eq_supported_iff :
    registry.lookup fullName = some (.supported kind) ↔ fullName = registry.optionName kind := by
  unfold lookup
  split
  case isTrue hstateful =>
    refine iff_of_false nofun fun h => ?_
    rcases any_statefulOptions_iff.mp hstateful with honce | himmutable
    · exact optionName_ne_stateful.1 (h.symm.trans honce)
    · exact optionName_ne_stateful.2 (h.symm.trans himmutable)
  case isFalse =>
    rw [← find?_optionName_eq_some_iff]
    simp

theorem lookup_eq_none_iff : registry.lookup fullName = none ↔ fullName ∉ registry.names := by
  constructor
  · intro hnone hmem
    rcases List.mem_append.mp hmem with hkind | hstateful
    · obtain ⟨kind, -, hname⟩ := List.mem_map.mp hkind
      exact absurd (hnone.symm.trans (lookup_eq_supported_iff.mpr hname.symm)) nofun
    · have hunsupported := lookup_eq_unsupported_iff.mpr (by simpa using hstateful)
      exact absurd (hnone.symm.trans hunsupported) nofun
  · intro hforeign
    cases hlookup : registry.lookup fullName with
    | none => rfl
    | some registration =>
      cases registration with
      | supported kind =>
        refine absurd (List.mem_append_left _ ?_) hforeign
        exact List.mem_map.mpr ⟨kind, kind.mem_evaluationOrder,
          (lookup_eq_supported_iff.mp hlookup).symm⟩
      | unsupported =>
        refine absurd (List.mem_append_right _ ?_) hforeign
        simpa using lookup_eq_unsupported_iff.mp hlookup

end Registry

/-! ## Settings one by one -/

namespace OptionSetting

variable {setting : OptionSetting} {declared : Option Constraint}

/-- What a setting on an element comes to: the registry does not know it, or it is for a kind that
belongs to such elements and its value declares a constraint. -/
inductive Reads (registry : Registry) (pool : Pool) (target : Target) (setting : OptionSetting) :
    Option Constraint → Prop
  | foreign (hname : setting.name ∉ registry.names) : Reads registry pool target setting none
  | declared {kind : ConstraintKind} {constraint : Constraint}
      (hname : setting.name = registry.optionName kind) (htarget : kind.target = target)
      (hvalue : (OptionValue.ofPool pool setting.value).Declares kind constraint) :
      Reads registry pool target setting (some constraint)

/-- Why a setting on an element is refused: it would need a memory of earlier messages, its kind
belongs to other elements, or its value declares nothing. -/
inductive Refused (registry : Registry) (pool : Pool) (target : Target) (setting : OptionSetting) :
    Prop
  | once (hname : setting.name = registry.qualify "once")
  | immutable (hname : setting.name = registry.qualify "immutable")
  | misplaced {kind : ConstraintKind} (hname : setting.name = registry.optionName kind)
      (htarget : kind.target ≠ target)
  | unreadable {kind : ConstraintKind} (hname : setting.name = registry.optionName kind)
      (hvalue : ∀ constraint, ¬ (OptionValue.ofPool pool setting.value).Declares kind constraint)

theorem Reads.constraint?_eq (h : setting.Reads registry pool target declared) (owner : String) :
    setting.constraint? registry pool target owner = .ok declared := by
  unfold constraint?
  cases h with
  | foreign hname => rw [Registry.lookup_eq_none_iff.mpr hname]
  | declared hname htarget hvalue =>
    rw [Registry.lookup_eq_supported_iff.mpr hname]
    simp [htarget, OptionValue.constraint_eq_ok_iff.mpr hvalue]

theorem Refused.constraint?_eq (h : setting.Refused registry pool target) (owner : String) :
    ∃ cause, setting.constraint? registry pool target owner = .error cause := by
  unfold constraint?
  cases h with
  | once hname => rw [Registry.lookup_eq_unsupported_iff.mpr (.inl hname)]; exact ⟨_, rfl⟩
  | immutable hname => rw [Registry.lookup_eq_unsupported_iff.mpr (.inr hname)]; exact ⟨_, rfl⟩
  | misplaced hname htarget =>
    rw [Registry.lookup_eq_supported_iff.mpr hname]
    simp [htarget]
  | @unreadable kind hname hvalue =>
    rw [Registry.lookup_eq_supported_iff.mpr hname]
    cases hconstraint : (OptionValue.ofPool pool setting.value).constraint kind with
    | ok constraint =>
      exact absurd (OptionValue.constraint_eq_ok_iff.mp hconstraint) (hvalue constraint)
    | error cause =>
      simp only [hconstraint]
      split <;> exact ⟨_, rfl⟩

/-- A setting is read or refused. -/
theorem reads_or_refused (registry : Registry) (pool : Pool) (target : Target)
    (setting : OptionSetting) :
    (∃ declared, setting.Reads registry pool target declared) ∨
      setting.Refused registry pool target := by
  cases hlookup : registry.lookup setting.name with
  | none => exact .inl ⟨none, .foreign (Registry.lookup_eq_none_iff.mp hlookup)⟩
  | some registration =>
    cases registration with
    | unsupported =>
      rcases Registry.lookup_eq_unsupported_iff.mp hlookup with honce | himmutable
      · exact .inr (.once honce)
      · exact .inr (.immutable himmutable)
    | supported kind =>
      have hname := Registry.lookup_eq_supported_iff.mp hlookup
      by_cases htarget : kind.target = target
      · by_cases hvalue : ∃ constraint,
          (OptionValue.ofPool pool setting.value).Declares kind constraint
        · obtain ⟨constraint, hvalue⟩ := hvalue
          exact .inl ⟨some constraint, .declared hname htarget hvalue⟩
        · exact .inr (.unreadable hname fun constraint h => hvalue ⟨constraint, h⟩)
      · exact .inr (.misplaced hname htarget)

theorem constraint?_eq_ok_iff :
    setting.constraint? registry pool target owner = .ok declared ↔
      setting.Reads registry pool target declared := by
  refine ⟨fun hok => ?_, fun h => h.constraint?_eq owner⟩
  rcases setting.reads_or_refused registry pool target with ⟨other, hother⟩ | hrefused
  · exact Except.ok.inj ((hother.constraint?_eq owner).symm.trans hok) ▸ hother
  · obtain ⟨cause, herror⟩ := hrefused.constraint?_eq owner
    exact absurd (hok.symm.trans herror) nofun

theorem refused_iff :
    setting.Refused registry pool target ↔
      ¬ ∃ declared, setting.Reads registry pool target declared := by
  refine ⟨fun hrefused hread => ?_, fun h =>
    (setting.reads_or_refused registry pool target).resolve_left h⟩
  obtain ⟨declared, hread⟩ := hread
  obtain ⟨cause, herror⟩ := hrefused.constraint?_eq ""
  exact absurd ((hread.constraint?_eq "").symm.trans herror) nofun

end OptionSetting

/-! ## Settings one after the other -/

namespace ConstraintSet

variable {options : List OptionSetting} {set result : ConstraintSet}

/-- **Options load if each of them is read**, and then the set has what they declare. -/
theorem addOptions_eq_ok_iff :
    set.addOptions registry pool target owner options = .ok result ↔
      ∃ declared, List.Forall₂ (OptionSetting.Reads registry pool target) options declared ∧
        set.insertAll (declared.filterMap id) = result := by
  induction options generalizing set with
  | nil => simp [addOptions, insertAll]
  | cons setting rest ih =>
    unfold addOptions
    cases hstep : setting.constraint? registry pool target owner with
    | error cause =>
      refine iff_of_false nofun ?_
      rintro ⟨_, _ | ⟨hread, -⟩, -⟩
      exact absurd (hstep.symm.trans (hread.constraint?_eq owner)) nofun
    | ok first =>
      have hread : ∀ declared, setting.Reads registry pool target declared ↔ first = declared :=
        fun declared => ⟨fun h => Except.ok.inj (hstep.symm.trans (h.constraint?_eq owner)),
          fun h => h ▸ OptionSetting.constraint?_eq_ok_iff.mp hstep⟩
      simp only [List.forall₂_cons_left_iff, hread]
      cases first with
      | none => simp [ih]
      | some constraint => simp [ih, insertAll]

/-- A setting that is read under the name of a kind declares a constraint of this kind. -/
theorem declares_of_reads {setting : OptionSetting} {declared : Option Constraint}
    (h : setting.Reads registry pool target declared)
    (hname : setting.name = registry.optionName kind) :
    ∃ constraint, (OptionValue.ofPool pool setting.value).Declares kind constraint := by
  cases h with
  | foreign hforeign => exact absurd (hname ▸ registry.optionName_mem_names kind) hforeign
  | declared hname' _ hvalue =>
    rw [Registry.optionName_injective (hname.symm.trans hname')]
    exact ⟨_, hvalue⟩

/-- What the last setting of a kind declares is in the set, in place of what was there. -/
theorem get?_insertAll_declared (set : ConstraintSet) (kind : ConstraintKind)
    {declared : List (Option Constraint)}
    (h : List.Forall₂ (OptionSetting.Reads registry pool target) options declared) :
    (set.insertAll (declared.filterMap id)).get? kind =
      (options.filter fun setting => setting.name = registry.optionName kind).getLast?.elim
        (set.get? kind) fun setting =>
          ((OptionValue.ofPool pool setting.value).constraint kind).toOption := by
  induction h generalizing set with
  | nil => rfl
  | @cons setting first rest others hread _ ih =>
    cases hread with
    | foreign hname =>
      have hother : ¬ setting.name = registry.optionName kind := fun h =>
        hname (h ▸ registry.optionName_mem_names kind)
      rw [List.filter_cons_of_neg (by simpa using hother)]
      exact ih set
    | @declared other constraint hname _ hvalue =>
      have hconstraint := OptionValue.constraint_eq_ok_iff.mpr hvalue
      have hkind := kind_of_option hconstraint
      have hadded : set.insertAll ((some constraint :: others).filterMap id) =
          (set.insert constraint).insertAll (others.filterMap id) := rfl
      rw [hadded, ih, get?_insert, hkind]
      -- The first setting of a kind counts only until a later one of the kind is read.
      by_cases hsame : other = kind
      · subst hsame
        rw [List.filter_cons_of_pos (by simpa using hname), List.getLast?_cons, if_pos rfl]
        cases (rest.filter fun later => later.name = registry.optionName other).getLast? with
        | none => simp [hconstraint, Except.toOption]
        | some later => rfl
      · have hother : ¬ setting.name = registry.optionName kind := fun h =>
          hsame (Registry.optionName_injective (hname.symm.trans h))
        rw [List.filter_cons_of_neg (by simpa using hother), if_neg hsame]

/-- Settings that the registry does not know can be left out. -/
theorem addOptions_filter :
    set.addOptions registry pool target owner
        (options.filter fun setting => setting.name ∈ registry.names) =
      set.addOptions registry pool target owner options := by
  induction options generalizing set with
  | nil => rfl
  | cons setting rest ih =>
    by_cases hknown : setting.name ∈ registry.names
    · rw [List.filter_cons_of_pos (by simpa using hknown)]
      unfold addOptions
      simp only [ih]
    · rw [List.filter_cons_of_neg (by simpa using hknown), ih]
      conv_rhs => unfold addOptions
      rw [(OptionSetting.Reads.foreign hknown).constraint?_eq owner]

/-- Options do not load if and only if one of them is refused. -/
theorem ofOptions_eq_error_iff :
    (∃ cause, ofOptions registry pool target owner options = .error cause) ↔
      ∃ setting ∈ options, setting.Refused registry pool target := by
  have hok : (∃ set, ofOptions registry pool target owner options = .ok set) ↔
      ∀ setting ∈ options, ¬ setting.Refused registry pool target := by
    simp only [OptionSetting.refused_iff, not_not, ← exists_forall₂_iff, ofOptions,
      addOptions_eq_ok_iff]
    exact ⟨fun ⟨_, declared, hread, _⟩ => ⟨declared, hread⟩,
      fun ⟨declared, hread⟩ => ⟨_, declared, hread, rfl⟩⟩
  cases hresult : ofOptions registry pool target owner options with
  | ok set =>
    refine iff_of_false nofun fun ⟨setting, hmem, hrefused⟩ => ?_
    exact hok.mp ⟨set, hresult⟩ setting hmem hrefused
  | error cause =>
    refine iff_of_true ⟨cause, rfl⟩ ?_
    by_contra hnone
    obtain ⟨set, hset⟩ := hok.mpr fun setting hmem hrefused => hnone ⟨setting, hmem, hrefused⟩
    exact absurd (hresult.symm.trans hset) nofun

/-- What loaded has a constraint for each kind that is set, and the last setting declares it. -/
theorem get?_ofOptions (h : ofOptions registry pool target owner options = .ok set)
    (kind : ConstraintKind) :
    (set.has kind = true ↔ ∃ setting ∈ options, setting.name = registry.optionName kind) ∧
      ∀ setting, (options.filter fun setting =>
          setting.name = registry.optionName kind).getLast? = some setting →
        ∃ constraint, (OptionValue.ofPool pool setting.value).Declares kind constraint ∧
          set.get? kind = some constraint := by
  obtain ⟨declared, hread, rfl⟩ := addOptions_eq_ok_iff.mp h
  have hget := get?_insertAll_declared empty kind hread
  rw [has, hget]
  cases hlast : (options.filter fun setting =>
      setting.name = registry.optionName kind).getLast? with
  | none =>
    have hnone := List.filter_eq_nil_iff.mp (List.getLast?_eq_none_iff.mp hlast)
    refine ⟨iff_of_false (by simp) ?_, ?_⟩
    · rintro ⟨setting, hmem, hname⟩
      exact hnone setting hmem (by simpa using hname)
    · rintro _ ⟨⟩
  | some last =>
    obtain ⟨hmem, hname⟩ := List.mem_filter.mp (List.mem_of_getLast? hlast)
    obtain ⟨constraint, hdeclares⟩ :=
      (exists_forall₂_iff.mp ⟨declared, hread⟩ last hmem).elim fun _ hlastRead =>
        declares_of_reads hlastRead (of_decide_eq_true hname)
    have hconstraint := OptionValue.constraint_eq_ok_iff.mpr hdeclares
    simp only [Option.elim_some, hconstraint, Except.toOption]
    refine ⟨iff_of_true rfl ⟨last, hmem, of_decide_eq_true hname⟩, ?_⟩
    rintro _ ⟨⟩
    exact ⟨constraint, hdeclares, rfl⟩

/-- **Options are loaded from the package of the registry and from nowhere else.**

Whatever the package, loading fails if and only if a setting is for one of the two options that
need a memory, for a kind that belongs to other elements, or has a value that declares nothing of
its kind.  Otherwise the set has a constraint of exactly the kinds that are set by the full names of
their options, the one that the value declares.  Settings with other full names make no difference,
not even to the error.

In its short form, a truth value or a text that is not empty, an option declares the same as in a
message that holds this value in the principal field of the kind, and nothing else. -/
theorem ofOptions_reads_package (registry : Registry) (pool : Pool) (target : Target)
    (owner : String) :
    (∀ options, (∃ cause, ofOptions registry pool target owner options = .error cause) ↔
      ∃ setting ∈ options, setting.Refused registry pool target) ∧
    (∀ options set, ofOptions registry pool target owner options = .ok set → ∀ kind,
      (set.has kind = true ↔ ∃ setting ∈ options, setting.name = registry.optionName kind) ∧
      ∀ setting, (options.filter fun setting =>
          setting.name = registry.optionName kind).getLast? = some setting →
        ∃ constraint, (OptionValue.ofPool pool setting.value).Declares kind constraint ∧
          set.get? kind = some constraint) ∧
    (∀ options others : List OptionSetting,
      (options.filter fun setting => setting.name ∈ registry.names) =
          others.filter (fun setting => setting.name ∈ registry.names) →
        ofOptions registry pool target owner options =
          ofOptions registry pool target owner others) ∧
    ∀ kind value constraint, Constraint.Plain kind value constraint →
      (OptionValue.ofPool pool value).constraint kind = .ok constraint ∧
      ∀ (payload : Message) (type : MessageType), pool.find? payload.typeName = some type →
        payload.HoldsOnly type kind.principal value →
        (OptionValue.ofPool pool payload.toValue).constraint kind = .ok constraint := by
  refine ⟨fun _ => ofOptions_eq_error_iff, fun _ _ => get?_ofOptions,
    fun options others h => ?_, fun kind value constraint hplain =>
    ⟨OptionValue.constraint_of_plain hplain pool, fun payload type htype honly =>
      OptionValue.constraint_of_holdsOnly hplain htype honly⟩⟩
  rw [ofOptions, ← addOptions_filter, h, addOptions_filter, ofOptions]

end ConstraintSet

namespace Sample

/-- A message type for thresholds, with two of the three fields that an option may have. -/
def limitType : MessageType where
  fullName := "acme.Limit"
  fields :=
    [⟨"value", "acme.Limit.value", "value", 1, .scalar .string, .singular, none, []⟩,
      ⟨"exclusive", "acme.Limit.exclusive", "exclusive", 2, .scalar .bool, .singular, none, []⟩]
  oneofs := []
  extensions := []
  options := []

def limitPool : Pool := ⟨[("acme.Limit", limitType)]⟩

/-- A threshold of three. -/
def limit : Message := ⟨"acme.Limit", [(1, .string "3")]⟩

theorem holdsOnly_limit : limit.HoldsOnly limitType "value" (.string "3") where
  held := ⟨_, rfl, rfl⟩
  others := by simp [limitType, limit, Message.stored?]

/-- A field is set to be required in one package and to be at least three in another. -/
def limited : List OptionSetting :=
  [⟨"validate.required", 50001, .bool true⟩, ⟨"acme.min", 50002, limit.toValue⟩]

end Sample

namespace ConstraintSet

open Sample in
/-- Of two packages only the one of the registry counts: the field has a threshold and need not be
set.  It would be refused to ask in this package that a field be set only once. -/
theorem ofOptions_reads_package_limit :
    (∃ cause, ofOptions ⟨"acme"⟩ limitPool .field "n"
      (⟨"acme.once", 50000, .bool true⟩ :: limited) = .error cause) ∧
    (∃ set, ofOptions ⟨"acme"⟩ limitPool .field "n" limited = .ok set ∧
      set.get? .min = some (.min ⟨"3", false, none⟩) ∧ set.has .required = false) ∧
    ofOptions ⟨"acme"⟩ limitPool .field "n" limited =
      ofOptions ⟨"acme"⟩ limitPool .field "n" (limited.drop 1) ∧
    (OptionValue.ofPool limitPool limit.toValue).constraint .min =
      .ok (.min ⟨"3", false, none⟩) := by
  obtain ⟨herror, hset, hforeign, hplain⟩ :=
    ofOptions_reads_package ⟨"acme"⟩ limitPool .field "n"
  have hlimit :=
    (hplain .min (.string "3") _ (.min (by decide))).2 limit limitType rfl holdsOnly_limit
  have hloaded : ofOptions ⟨"acme"⟩ limitPool .field "n" limited =
    .ok (ofList [.min ⟨"3", false, none⟩]) := rfl
  refine ⟨(herror _).mpr ⟨_, List.mem_cons_self, .once (by decide)⟩, ⟨_, hloaded, ?_, ?_⟩,
    hforeign _ _ rfl, hlimit⟩
  · obtain ⟨constraint, hdeclares, hget⟩ := (hset _ _ hloaded .min).2 _ rfl
    rw [hget, ← Except.ok.inj (hlimit.symm.trans (OptionValue.constraint_eq_ok_iff.mpr hdeclares))]
  · refine Bool.eq_false_iff.mpr fun h => ?_
    obtain ⟨setting, hmem, hname⟩ := (hset _ _ hloaded .required).1.mp h
    simp only [limited, List.mem_cons, List.not_mem_nil, or_false] at hmem
    rcases hmem with rfl | rfl
    · exact absurd hname (by decide)
    · exact absurd hname (by decide)

end ConstraintSet

end MessageConstraints
