import MessageConstraints.Proofs.RuleSets
import MessageConstraints.Proofs.Transparency

/-!
# Options of a validator

The options that a validator is made with come in a list, and all that they come to are settings
(`Settings.foldl_apply`): whether an option is among them, the last one of its sort, or all of its
sort in their order.  So lists that agree in this come to the same settings, in whatever way options
of different sorts are mixed (`ValidatorOption.Agree.ofOptions_eq`), and nothing else of the options
is seen by the validator.  Of the rules in them, only the order of attaching matters
(`RuleSet.MadeOf.eq_ofList`).
-/

namespace MessageConstraints

/-! ## Options by sort -/

namespace ValidatorOption

def isFailFast : ValidatorOption → Bool
  | .failFast => true
  | _ => false

def isDisableLazy : ValidatorOption → Bool
  | .disableLazy => true
  | _ => false

/-- The limit that an option sets on nested messages. -/
def maxDepth? : ValidatorOption → Option Nat
  | .maxDepth levels => some levels
  | _ => none

/-- The registry that an option gives. -/
def registry? : ValidatorOption → Option Registry
  | .registry given => some given
  | _ => none

/-- The rules that an option adds. -/
def rules? : ValidatorOption → Option RuleSet
  | .rules added => some added
  | _ => none

/-- The types that an option lists to be compiled beforehand. -/
def listed : ValidatorOption → List String
  | .preload typeNames => typeNames
  | _ => []

/-- Two lists of options have the same switches, the same last limit and registry, and the same
rules and listed types in their order. -/
structure Agree (first second : List ValidatorOption) : Prop where
  failFast : .failFast ∈ first ↔ .failFast ∈ second
  disableLazy : .disableLazy ∈ first ↔ .disableLazy ∈ second
  maxDepth : (first.filterMap maxDepth?).getLast? = (second.filterMap maxDepth?).getLast?
  registry : (first.filterMap registry?).getLast? = (second.filterMap registry?).getLast?
  rules : first.filterMap rules? = second.filterMap rules?
  listed : first.flatMap listed = second.flatMap listed

variable {options : List ValidatorOption}

/-- A switch is among some options if one of them passes the test that only the switch passes. -/
theorem any_iff_mem {test : ValidatorOption → Bool} {switch : ValidatorOption}
    (htest : ∀ option, test option = true ↔ option = switch) :
    options.any test = true ↔ switch ∈ options := by
  simp only [List.any_eq_true, htest, exists_eq_right]

theorem any_isFailFast : options.any isFailFast = true ↔ .failFast ∈ options :=
  any_iff_mem fun option => by cases option <;> simp [isFailFast]

theorem any_isDisableLazy : options.any isDisableLazy = true ↔ .disableLazy ∈ options :=
  any_iff_mem fun option => by cases option <;> simp [isDisableLazy]

end ValidatorOption

namespace Settings

open ValidatorOption

/-- **What options come to**, sort by sort. -/
theorem foldl_apply (settings : Settings) (options : List ValidatorOption) :
    options.foldl apply settings = {
      manner := ⟨if options.any isFailFast then .failFast else settings.manner.reporting,
        (options.filterMap maxDepth?).getLast?.getD settings.manner.maxDepth⟩
      isLazy := settings.isLazy && !options.any isDisableLazy
      registry := (options.filterMap registry?).getLast?.getD settings.registry
      rules := (options.filterMap rules?).foldl RuleSet.extend settings.rules
      preloaded := settings.preloaded ++ options.flatMap listed } := by
  induction options generalizing settings with
  | nil => simp
  | cons option rest ih =>
    rw [List.foldl_cons, ih]
    cases option <;>
      simp [apply, Manner.apply, isFailFast, isDisableLazy, maxDepth?, registry?, rules?, listed,
        List.filterMap_cons, List.getLast?_cons]

/-- Options that agree come to the same settings. -/
theorem ofOptions_eq {first second : List ValidatorOption} (h : Agree first second) :
    ofOptions first = ofOptions second := by
  have hfailFast : first.any isFailFast = second.any isFailFast :=
    Bool.eq_iff_iff.mpr (any_isFailFast.trans (h.failFast.trans any_isFailFast.symm))
  have hdisableLazy : first.any isDisableLazy = second.any isDisableLazy :=
    Bool.eq_iff_iff.mpr (any_isDisableLazy.trans (h.disableLazy.trans any_isDisableLazy.symm))
  rw [ofOptions, ofOptions, foldl_apply, foldl_apply, hfailFast, hdisableLazy, h.maxDepth,
    h.registry, h.rules, h.listed]

end Settings

/-! ## What agreeing options make -/

namespace Validator

variable {catalog : Catalog} {order : NameOrder} {first second : List ValidatorOption}

theorem withOptions_eq_of_agree (h : ValidatorOption.Agree first second) :
    withOptions catalog order first = withOptions catalog order second := by
  rw [withOptions, withOptions, Settings.ofOptions_eq h]

theorem tryWithOptions_eq_of_agree (h : ValidatorOption.Agree first second) :
    tryWithOptions catalog order first = tryWithOptions catalog order second := by
  rw [tryWithOptions, tryWithOptions, Settings.ofOptions_eq h]

end Validator

end MessageConstraints
