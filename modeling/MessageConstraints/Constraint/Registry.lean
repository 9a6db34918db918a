import MessageConstraints.Constraint.Basic

/-!
# Constraint registries

Which options of a descriptor declare constraints: those of one package, under the option names
of the kinds.  Two further names of the package are known and refused, because what they ask for
depends on earlier messages.
-/

namespace MessageConstraints

/-- What the name of an option stands for. -/
inductive Registration where
  | supported (kind : ConstraintKind)
  | unsupported
deriving Repr, DecidableEq

/-- The package whose options declare constraints. -/
structure Registry where
  package : String
deriving Repr, DecidableEq

namespace Registry

/-- The registry of the package `validate`. -/
def default : Registry := ⟨"validate"⟩

instance : Inhabited Registry := ⟨default⟩

/-- The options that would need a memory of earlier messages. -/
def statefulOptions : List String := ["once", "immutable"]

/-- A name inside the registry's package; an empty package adds no point. -/
def qualify (registry : Registry) (name : String) : String :=
  if registry.package.isEmpty then name else registry.package ++ "." ++ name

/-- The full name of the option that declares a kind. -/
def optionName (registry : Registry) (kind : ConstraintKind) : String :=
  registry.qualify kind.optionName

/-- What a full option name stands for; names outside the package stand for nothing. -/
def lookup (registry : Registry) (fullName : String) : Option Registration :=
  if statefulOptions.any fun name => registry.qualify name = fullName then some .unsupported
  else
    (ConstraintKind.evaluationOrder.find? fun kind => registry.optionName kind = fullName).map
      .supported

end Registry

end MessageConstraints
