import MessageConstraints.Evaluation

/-!
# Validators

A validator answers whether messages satisfy the constraints on their types.  It compiles the
constraints of a type when a message of it first comes, unless that is turned off, or beforehand,
and keeps what it has compiled by the full name of the type.

Options are given in a list when a validator is made.  They are first put together to settings, so
that the order of options of different sorts does not matter.  The rules among them are put together
anew for each validator, which then has their names in an order of its own.
-/

namespace MessageConstraints

/-- How a message is validated: what is reported, and how many levels of nested messages below the
message are descended into. -/
structure Manner where
  reporting : Reporting
  maxDepth : Nat
deriving Repr, DecidableEq

namespace Manner

/-- All violations are collected, down to 64 levels. -/
def default : Manner := ⟨.collect, 64⟩

instance : Inhabited Manner := ⟨default⟩

end Manner

/-! ## Options -/

/-- An option for a new validator. -/
inductive ValidatorOption where
  /-- End at the first violations. -/
  | failFast
  /-- Compile no type but those listed beforehand. -/
  | disableLazy
  /-- Descend into at most so many levels of nested messages. -/
  | maxDepth (levels : Nat)
  /-- Take constraints from the options of another registry. -/
  | registry (registry : Registry)
  /-- Attach constraints besides the declared ones. -/
  | rules (rules : RuleSet)
  /-- Compile some types of the first pool beforehand. -/
  | preload (typeNames : List String)

/-- An option for a single validation. -/
inductive CallOption where
  | failFast
  | maxDepth (levels : Nat)
deriving Repr, DecidableEq

namespace Manner

/-- Changes the manner of a single validation. -/
def apply (manner : Manner) : CallOption → Manner
  | .failFast => { manner with reporting := .failFast }
  | .maxDepth levels => { manner with maxDepth := levels }

/-- The manner of a validation with some options, the later ones deciding. -/
def withOptions (manner : Manner) (options : List CallOption) : Manner :=
  options.foldl apply manner

end Manner

/-- What the options for a new validator come to. -/
structure Settings where
  manner : Manner
  isLazy : Bool
  registry : Registry
  rules : RuleSet
  preloaded : List String

namespace Settings

/-- The settings without any option. -/
def default : Settings := ⟨.default, true, .default, .empty, []⟩

instance : Inhabited Settings := ⟨default⟩

/-- Adds an option: rules and types to preload add up, all else is replaced. -/
def apply (settings : Settings) : ValidatorOption → Settings
  | .failFast => { settings with manner := settings.manner.apply .failFast }
  | .disableLazy => { settings with isLazy := false }
  | .maxDepth levels => { settings with manner := settings.manner.apply (.maxDepth levels) }
  | .registry registry => { settings with registry := registry }
  | .rules rules => { settings with rules := settings.rules.extend rules }
  | .preload typeNames => { settings with preloaded := settings.preloaded ++ typeNames }

/-- What some options come to. -/
def ofOptions (options : List ValidatorOption) : Settings :=
  options.foldl apply default

end Settings

/-! ## Validators -/

/-- Validates messages, and keeps what it compiles on the way. -/
structure Validator where
  sources : Sources
  isLazy : Bool
  manner : Manner
  store : Store

namespace Validator

/-- Compiles a type beforehand, and gives the first error of this: that of the type itself, or else
that of the first type by name that was compiled along with it. -/
def preload (validator : Validator) (ref : TypeRef) : Validator × Option CompileError :=
  let known := validator.store.compiled
  let store := validator.store.compile validator.sources ref
  let own := (store.compiled.find? ref.name).bind Compiled.error?
  let fresh := store.compiled.sorted.filter fun entry => !known.contains entry.1
  ({ validator with store }, own <|> fresh.findSome? fun entry => entry.2.error?)

/-- Compiles types beforehand in order, and gives the first error of all. -/
def preloadAll (validator : Validator) : List TypeRef → Validator × Option CompileError
  | [] => (validator, none)
  | ref :: rest =>
    let (validator, first) := validator.preload ref
    let (validator, later) := preloadAll validator rest
    (validator, first <|> later)

/-- The validator with some settings, and with the names in its rules in some order, before anything
is compiled. -/
def fresh (catalog : Catalog) (order : NameOrder) (settings : Settings) : Validator where
  sources := ⟨catalog, settings.registry, settings.rules.arranged order⟩
  isLazy := settings.isLazy
  manner := settings.manner
  store := .empty

/-- The validator with some settings, and the first error among the types listed in them. -/
def ofSettings (catalog : Catalog) (order : NameOrder) (settings : Settings) :
    Validator × Option CompileError :=
  (fresh catalog order settings).preloadAll (settings.preloaded.map fun name => ⟨0, name⟩)

/-- The validator with some options; errors in the types listed in them show when messages of these
types are validated. -/
def withOptions (catalog : Catalog) (order : NameOrder) (options : List ValidatorOption) :
    Validator :=
  (ofSettings catalog order (.ofOptions options)).1

/-- The validator with some options, unless a type listed in them, or one compiled along with it,
cannot be compiled. -/
def tryWithOptions (catalog : Catalog) (order : NameOrder) (options : List ValidatorOption) :
    Except CompileError Validator :=
  match ofSettings catalog order (.ofOptions options) with
  | (validator, none) => .ok validator
  | (_, some cause) => .error cause

/-- The validator without any option, and so without any rules to go through. -/
def default (catalog : Catalog) : Validator :=
  withOptions catalog .written []

/-- Compiles a type if the validator is to do so on demand. -/
def load (validator : Validator) (ref : TypeRef) : Validator :=
  if validator.isLazy then
    { validator with store := validator.store.compile validator.sources ref }
  else validator

/-- What a message of a type comes to. -/
def validate (validator : Validator) (pool : Nat) (message : Message)
    (options : List CallOption) : Validator × Outcome :=
  let announced := { validator with
    store := validator.store.record (.validating message.typeName) }
  let loaded := announced.load ⟨pool, message.typeName⟩
  let manner := loaded.manner.withOptions options
  (loaded, loaded.store.evaluate manner.reporting manner.maxDepth message.typeName message)

/-- The violations of a message of a type, or why they cannot be told. -/
def violations (validator : Validator) (pool : Nat) (message : Message) :
    Validator × Except Failure (List Violation) :=
  let (validator, outcome) := validator.validate pool message []
  (validator, outcome.found)

/-- The schema of a type. -/
def schema (validator : Validator) (ref : TypeRef) :
    Validator × Except CompileError MessageSchema :=
  let (store, placed) := validator.store.resolve validator.sources ref
  ({ validator with store }, placed.map PlacedSchema.schema)

/-! ## Calls -/

/-- What a validator is asked for. -/
inductive Request where
  | validate (pool : Nat) (message : Message) (options : List CallOption)
  | violations (pool : Nat) (message : Message)
  | schema (ref : TypeRef)

/-- What a validator answers. -/
inductive Answer where
  | outcome (outcome : Outcome)
  | violations (found : Except Failure (List Violation))
  | schema (schema : Except CompileError MessageSchema)

/-- Answers one request. -/
def answer (validator : Validator) : Request → Validator × Answer
  | .validate pool message options =>
    let (validator, outcome) := validator.validate pool message options
    (validator, .outcome outcome)
  | .violations pool message =>
    let (validator, found) := validator.violations pool message
    (validator, .violations found)
  | .schema ref =>
    let (validator, schema) := validator.schema ref
    (validator, .schema schema)

/-- Answers requests one after the other. -/
def answerAll (validator : Validator) : List Request → Validator × List Answer
  | [] => (validator, [])
  | request :: rest =>
    let (validator, first) := validator.answer request
    let (validator, later) := answerAll validator rest
    (validator, first :: later)

end Validator

end MessageConstraints
