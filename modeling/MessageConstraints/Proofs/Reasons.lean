import Mathlib.Tactic.Common
import MessageConstraints.Proofs.Refusal

/-!
# Reasons

A type that is declared and has no checks has none for a reason: some name, option or constraint is
wrong (`Sources.isReason_of_checksAt`).  That a type has not been compiled is no such reason, so
this error tells types that a validator does not know from types that it has turned down.
-/

namespace MessageConstraints

/-! ## Errors of one sort -/

/-- All errors that a result may be are of a sort. -/
def ErrorsIn {ε α : Type} (sort : ε → Prop) (result : Except ε α) : Prop :=
  ∀ cause, result = .error cause → sort cause

section

variable {ε α β : Type} {sort : ε → Prop}

theorem errorsIn_ok (a : α) : ErrorsIn sort (.ok a) := by
  intro cause h
  cases h

theorem errorsIn_error {cause : ε} (h : sort cause) :
    ErrorsIn sort (.error cause : Except ε α) := by
  intro other heq
  cases heq
  exact h

theorem ErrorsIn.bind {result : Except ε α} {next : α → Except ε β} (h : ErrorsIn sort result)
    (hnext : ∀ a, ErrorsIn sort (next a)) : ErrorsIn sort (result >>= next) := by
  intro cause hcause
  cases result with
  | error other =>
    obtain rfl := Except.error.inj hcause
    exact h other rfl
  | ok a => exact hnext a cause hcause

theorem ErrorsIn.mapM {make : α → Except ε β} (h : ∀ a, ErrorsIn sort (make a)) (things : List α) :
    ErrorsIn sort (things.mapM make) := by
  induction things with
  | nil => exact errorsIn_ok _
  | cons a rest ih =>
    rw [List.mapM_cons]
    exact (h a).bind fun b => ih.bind fun bs => errorsIn_ok _

end

/-- An error that is not about a type having no checks. -/
def CompileError.IsReason : CompileError → Prop
  | .notCompiled _ => False
  | _ => True

section

variable {registry : Registry} {pool : Pool} {target : Target} {owner : String}

theorem errorsIn_constraint? (setting : OptionSetting) :
    ErrorsIn CompileError.IsReason (setting.constraint? registry pool target owner) := by
  unfold OptionSetting.constraint?
  split
  case h_1 => exact errorsIn_ok _
  case h_2 => exact errorsIn_error trivial
  case h_3 =>
    split
    case isFalse => exact errorsIn_error trivial
    case isTrue =>
      split
      · exact errorsIn_ok _
      · exact errorsIn_error trivial

theorem errorsIn_addOptions (set : ConstraintSet) (options : List OptionSetting) :
    ErrorsIn CompileError.IsReason (set.addOptions registry pool target owner options) := by
  induction options generalizing set with
  | nil => exact errorsIn_ok _
  | cons setting rest ih =>
    unfold ConstraintSet.addOptions
    split
    case h_1 cause hcause => exact errorsIn_error (errorsIn_constraint? setting cause hcause)
    case h_2 => exact ih _
    case h_3 => exact ih _

theorem errorsIn_overlay (set : ConstraintSet) (rules : List Constraint) :
    ErrorsIn CompileError.IsReason (set.overlay target owner rules) := by
  induction rules generalizing set with
  | nil => exact errorsIn_ok _
  | cons constraint rest ih =>
    unfold ConstraintSet.overlay
    split
    · exact ih _
    · exact errorsIn_error trivial

end

namespace MessageSchema

theorem errorsIn_resolveElement (registry : Registry) (pool : Pool) (target : Target)
    (owner : String) (options : List OptionSetting) (rules : Option ConstraintSet) :
    ErrorsIn CompileError.IsReason (resolveElement registry pool target owner options rules) :=
  ErrorsIn.bind (errorsIn_addOptions _ options) fun declared => errorsIn_overlay declared _

theorem errorsIn_checkNames (type : MessageType) (rules : MessageRules) :
    ErrorsIn CompileError.IsReason (checkNames type rules) := by
  unfold checkNames
  split
  · exact errorsIn_error trivial
  · split
    · exact errorsIn_error trivial
    · exact errorsIn_ok _

/-- A schema that does not resolve has a reason. -/
theorem errorsIn_resolve (registry : Registry) (rules : RuleSet) (pool : Pool)
    (type : MessageType) :
    ErrorsIn CompileError.IsReason (resolve registry rules pool type) := by
  have helement := errorsIn_resolveElement registry pool
  unfold resolve
  refine ErrorsIn.bind (helement _ _ _ _) fun constraints => ?_
  refine ErrorsIn.bind (errorsIn_checkNames _ _) fun _ => ?_
  refine ErrorsIn.bind (ErrorsIn.mapM (fun field => ?_) _) fun fields => ?_
  · exact ErrorsIn.bind (helement _ _ _ _) fun _ => errorsIn_ok _
  refine ErrorsIn.bind (ErrorsIn.mapM (fun oneof => ?_) _) fun oneofs => errorsIn_ok _
  exact ErrorsIn.bind (helement _ _ _ _) fun _ => errorsIn_ok _

end MessageSchema

/-- A constraint is refused for a reason. -/
theorem Site.Refused.isReason {owner : MessageSchema} {site : Site} {cause : CompileError}
    (h : site.Refused owner cause) : cause.IsReason := by
  cases cause with
  | notCompiled typeName => ?_
  | _ => trivial
  have hnumber : ∀ {schema : FieldSchema} {kind : ConstraintKind}
      {wrong : NumberFamily → CompileError → Prop},
      (∀ family, ¬ wrong family (.notCompiled typeName)) →
      ¬ schema.RefusesNumber kind wrong (.notCompiled typeName) := by
    rintro schema kind wrong hwrong (⟨-, heq⟩ | ⟨family, -, hfamily⟩)
    · cases heq
    · exact hwrong family hfamily
  cases site with
  | field schema constraint =>
    cases constraint with
    | pattern rule =>
      have hpattern : schema.RefusesPattern rule (.notCompiled typeName) := h
      cases hpattern
    | min rule => exact hnumber (fun family hwrong => nomatch hwrong.2) h
    | max rule => exact hnumber (fun family hwrong => nomatch hwrong.2) h
    | range source => exact hnumber (fun family ⟨_, _, heq⟩ => nomatch heq) h
    | distinct on => exact nomatch h.2.2
    | dependency rule => exact nomatch h.2
    | recurse on => exact nomatch h.2.2
    | _ => exact h
  | oneof schema constraint => exact h
  | message constraint =>
    have hwhole : owner.Refuses constraint (.notCompiled typeName) := h
    cases hwhole

namespace Sources

variable {sources : Sources} {pool : Nat} {name : String}

/-- A declared type that has no checks has none for a reason. -/
theorem isReason_of_checksAt (hdeclared : sources.Declares pool name) {cause : CompileError}
    (h : sources.checksAt pool name = .error cause) : cause.IsReason := by
  cases hschema : sources.schemaAt pool name with
  | error other =>
    obtain ⟨type, htype⟩ := Option.isSome_iff_exists.mp hdeclared
    have hresolve : MessageSchema.resolve sources.registry sources.rules
        (sources.catalog.pool pool) type = .error other := by
      rw [schemaAt, schema?, htype] at hschema
      exact hschema
    rw [checksAt, compiledAt, hschema] at h
    obtain rfl := Except.error.inj h
    exact MessageSchema.errorsIn_resolve _ _ _ _ _ hresolve
  | ok schema =>
    obtain ⟨position, site, -, hrefused, -⟩ := ((decides_compiledAt hschema).error_iff cause).mp h
    exact hrefused.isReason

end Sources

end MessageConstraints
