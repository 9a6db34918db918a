import Mathlib.Tactic.Common
import MessageConstraints.Proofs.Store

/-!
# Answers do not depend on what was asked before

A validator keeps what it has compiled.  As long as all that it is asked is about the types of one
pool, its store stays faithful and closed (`Settled`, `answer_keeps`), and then every answer is the
one that the sources and the manner of the validator give by themselves (`Settled.answer_eq`).  So
a validator that compiles on demand answers like a new one, whatever it was asked before and
whatever was compiled beforehand.
-/

namespace MessageConstraints

/-- What a message of a pool comes to under the checks that the types have by themselves. -/
def Sources.outcome (sources : Sources) (manner : Manner) (pool : Nat) (message : Message) :
    Outcome :=
  (sources.checksAt pool).evaluate manner.reporting manner.maxDepth manner.maxDepth
    message.typeName message

namespace Validator

namespace Request

/-- The pool that a request is about. -/
def pool : Request → Nat
  | validate pool _ _ => pool
  | violations pool _ => pool
  | schema ref => ref.pool

/-- The answer to a request that the sources and the manner of a validator give by themselves. -/
def expected (sources : Sources) (manner : Manner) : Request → Answer
  | validate pool message options =>
    .outcome (sources.outcome (manner.withOptions options) pool message)
  | violations pool message => .violations (sources.outcome manner pool message).found
  | schema ref => .schema (sources.schemaAt ref.pool ref.name)

/-- The answer depends on the schemas of the pool only. -/
theorem expected_congr {sources sources' : Sources} {request : Request}
    (h : sources.schemaAt request.pool = sources'.schemaAt request.pool) (manner : Manner) :
    request.expected sources manner = request.expected sources' manner := by
  have hchecks : sources.checksAt request.pool = sources'.checksAt request.pool := by
    funext name
    rw [Sources.checksAt, Sources.checksAt, Sources.compiledAt, Sources.compiledAt, h]
  cases request with
  | validate pool message options | violations pool message =>
    simp only [expected, Sources.outcome]
    rw [show sources.checksAt pool = sources'.checksAt pool from hchecks]
  | schema ref => exact congrArg Answer.schema (congrFun h ref.name)

end Request

variable {pool : Nat}

/-- Everything that a validator knows is what it stands for in the pool, and nothing is missing
that it would come upon in a message of a compiled type. -/
def Settled (pool : Nat) (validator : Validator) : Prop :=
  validator.store.Faithful validator.sources pool ∧ validator.store.Closed validator.sources pool

/-- What a validator is like after some calls: settled, configured as before, and with all that
was compiled before. -/
structure Keeps (pool : Nat) (before after : Validator) : Prop where
  settled : after.Settled pool
  sources_eq : after.sources = before.sources
  isLazy_eq : after.isLazy = before.isLazy
  manner_eq : after.manner = before.manner
  extends_store : after.store.Extends before.store

/-- Whether a validator has, or would find, the checks of a type. -/
def Serves (pool : Nat) (validator : Validator) (typeName : String) : Prop :=
  validator.isLazy = true ∨ validator.store.Covers validator.sources pool typeName

theorem Settled.keeps {validator : Validator} (h : validator.Settled pool) :
    Keeps pool validator validator :=
  ⟨h, rfl, rfl, rfl, fun _ _ hfind => hfind⟩

theorem Keeps.trans {first second third : Validator} (h : Keeps pool first second)
    (h' : Keeps pool second third) : Keeps pool first third :=
  ⟨h'.settled, h'.sources_eq.trans h.sources_eq, h'.isLazy_eq.trans h.isLazy_eq,
    h'.manner_eq.trans h.manner_eq, fun name compiled hfind =>
      h'.extends_store name compiled (h.extends_store name compiled hfind)⟩

theorem settled_fresh (pool : Nat) (catalog : Catalog) (order : NameOrder) (settings : Settings) :
    (fresh catalog order settings).Settled pool :=
  ⟨Store.faithful_empty _ pool, Store.closed_empty _ pool⟩

/-! ## Single steps -/

theorem Settled.record {validator : Validator} (h : validator.Settled pool) (event : Event) :
    Keeps pool validator { validator with store := validator.store.record event } where
  settled := ⟨⟨h.1.schema_eq, h.1.compiled_eq⟩, h.2⟩
  sources_eq := rfl
  isLazy_eq := rfl
  manner_eq := rfl
  extends_store _ _ hfind := hfind

theorem Settled.reached {validator : Validator} (h : validator.Settled pool) (name : String) :
    Store.Reached validator.sources pool validator.store [.enter ⟨pool, name⟩]
      (validator.store.compile validator.sources ⟨pool, name⟩) := by
  refine Store.run_reached h.1 ?_ ?_
  · intro ref href
    obtain rfl : ref = ⟨pool, name⟩ := by simpa using href
    rfl
  · intro other compiled hfind nested hnested
    exact (h.2 other compiled hfind nested hnested).imp_right fun hnone =>
      absurd hnone List.not_mem_nil

theorem Settled.compile {validator : Validator} (h : validator.Settled pool) (name : String) :
    Keeps pool validator
      { validator with store := validator.store.compile validator.sources ⟨pool, name⟩ } where
  settled := ⟨(h.reached name).faithful, (h.reached name).closed⟩
  sources_eq := rfl
  isLazy_eq := rfl
  manner_eq := rfl
  extends_store := (h.reached name).keeps

theorem Settled.load {validator : Validator} (h : validator.Settled pool) (name : String) :
    Keeps pool validator (validator.load ⟨pool, name⟩) := by
  unfold Validator.load
  split
  · exact h.compile name
  · exact h.keeps

/-- After loading a type that the validator serves, its checks are at hand. -/
theorem Settled.covers_load {validator : Validator} (h : validator.Settled pool) {name : String}
    (hserves : validator.Serves pool name) :
    (validator.load ⟨pool, name⟩).store.Covers validator.sources pool name := by
  unfold Validator.load
  split
  · exact (h.reached name).covers name List.mem_cons_self
  · exact hserves.resolve_left ‹_›

theorem Settled.resolve {validator : Validator} (h : validator.Settled pool) (name : String) :
    Keeps pool validator
      { validator with store := (validator.store.resolve validator.sources ⟨pool, name⟩).1 } where
  settled := by
    refine ⟨h.1.resolve name, ?_⟩
    intro other compiled hfind nested hnested
    rw [Store.compiled_resolve] at hfind
    refine (h.2 other compiled hfind nested hnested).imp_left fun hcovers hdeclared => ?_
    rw [Store.compiled_resolve]
    exact hcovers hdeclared
  sources_eq := rfl
  isLazy_eq := rfl
  manner_eq := rfl
  extends_store other compiled hfind := by
    rw [Store.compiled_resolve]
    exact hfind

/-! ## Calls -/

/-- The validator that a message is put to has announced it and loaded its type. -/
theorem keeps_validate {validator : Validator} (h : validator.Settled pool) (message : Message)
    (options : List CallOption) :
    Keeps pool validator (validator.validate pool message options).1 :=
  let announced := h.record (.validating message.typeName)
  announced.trans (announced.settled.load message.typeName)

/-- **A call keeps the validator settled.** -/
theorem answer_keeps {validator : Validator} (h : validator.Settled pool) {request : Request}
    (hpool : request.pool = pool) : Keeps pool validator (validator.answer request).1 := by
  subst hpool
  cases request with
  | validate pool message options => exact keeps_validate h message options
  | violations pool message => exact keeps_validate h message []
  | schema ref => exact h.resolve ref.name

/-- Any number of calls keep the validator settled. -/
theorem answerAll_keeps {validator : Validator} (h : validator.Settled pool)
    {requests : List Request} (hpool : ∀ request ∈ requests, request.pool = pool) :
    Keeps pool validator (validator.answerAll requests).1 := by
  induction requests generalizing validator with
  | nil => exact h.keeps
  | cons request rest ih =>
    have hfirst := answer_keeps h (hpool request List.mem_cons_self)
    exact hfirst.trans
      (ih hfirst.settled fun later hlater => hpool later (List.mem_cons_of_mem _ hlater))

/-- Preloading types keeps the validator settled. -/
theorem preloadAll_keeps {validator : Validator} (h : validator.Settled pool)
    (names : List String) :
    Keeps pool validator (validator.preloadAll (names.map (TypeRef.mk pool))).1 := by
  induction names generalizing validator with
  | nil => exact h.keeps
  | cons name rest ih => exact (h.compile name).trans (ih (h.compile name).settled)

/-- A message of a type that a settled validator serves comes to what the sources say. -/
theorem Settled.validate_eq {validator : Validator} (h : validator.Settled pool)
    (message : Message) (hserves : validator.Serves pool message.typeName)
    (options : List CallOption) :
    (validator.validate pool message options).2 =
      validator.sources.outcome (validator.manner.withOptions options) pool message := by
  have hannounced := h.record (.validating message.typeName)
  have hloaded := hannounced.settled.load message.typeName
  have hcovers := hannounced.settled.covers_load
    (show Serves pool _ message.typeName from hserves)
  have heval := (hloaded.settled.1).evaluate_eq hloaded.settled.2
    (by rw [hloaded.sources_eq]; exact hcovers)
    (validator.manner.withOptions options).reporting
    (validator.manner.withOptions options).maxDepth message
  rw [hloaded.sources_eq] at heval
  rw [Sources.outcome, ← heval, validate, hloaded.manner_eq]

/-- A settled validator has the schemas that its sources say. -/
theorem Settled.schema_eq {validator : Validator} (h : validator.Settled pool) (name : String) :
    (validator.schema ⟨pool, name⟩).2 = validator.sources.schemaAt pool name := by
  show (validator.store.resolve validator.sources ⟨pool, name⟩).2.map PlacedSchema.schema = _
  rw [h.1.resolve_snd name]
  cases validator.sources.schemaAt pool name <;> rfl

/-- Every answer of a settled validator is the one that its sources and its manner give. -/
theorem Settled.answer_eq {validator : Validator} (h : validator.Settled pool)
    (hlazy : validator.isLazy = true) {request : Request} (hpool : request.pool = pool) :
    (validator.answer request).2 = request.expected validator.sources validator.manner := by
  subst hpool
  cases request with
  | validate pool message options =>
    exact congrArg Answer.outcome (h.validate_eq message (Or.inl hlazy) options)
  | violations pool message =>
    exact congrArg (fun outcome => Answer.violations outcome.found)
      (h.validate_eq message (Or.inl hlazy) [])
  | schema ref => exact congrArg Answer.schema (h.schema_eq ref.name)

end Validator

/-! ## Options -/

/-- Whether an option lists types to compile beforehand. -/
def ValidatorOption.isPreload : ValidatorOption → Bool
  | .preload _ => true
  | _ => false

namespace Settings

/-- The settings without the types to compile beforehand. -/
def withoutPreload (settings : Settings) : Settings :=
  { settings with preloaded := [] }

theorem withoutPreload_apply (settings : Settings) (option : ValidatorOption) :
    (settings.apply option).withoutPreload =
      if option.isPreload then settings.withoutPreload
      else settings.withoutPreload.apply option := by
  cases option <;> rfl

theorem withoutPreload_foldl (settings : Settings) (options : List ValidatorOption) :
    (options.foldl apply settings).withoutPreload =
      (options.filter (!·.isPreload)).foldl apply settings.withoutPreload := by
  induction options generalizing settings with
  | nil => rfl
  | cons option rest ih =>
    rw [List.foldl_cons, ih, withoutPreload_apply]
    cases hoption : option.isPreload <;> simp [hoption]

/-- Dropping the options that list types drops the list of types and nothing else. -/
theorem ofOptions_filter (options : List ValidatorOption) :
    ofOptions (options.filter (!·.isPreload)) = (ofOptions options).withoutPreload :=
  (withoutPreload_foldl default options).symm

theorem isLazy_foldl (settings : Settings) {options : List ValidatorOption}
    (h : ValidatorOption.disableLazy ∉ options) :
    (options.foldl apply settings).isLazy = settings.isLazy := by
  induction options generalizing settings with
  | nil => rfl
  | cons option rest ih =>
    obtain ⟨hoption, hrest⟩ := not_or.mp (fun hor => h (List.mem_cons.mpr hor))
    rw [List.foldl_cons, ih _ hrest]
    cases option with
    | disableLazy => exact absurd rfl hoption
    | _ => rfl

end Settings

namespace Validator

/-- A new validator is settled, and configured as its options say. -/
theorem withOptions_keeps (catalog : Catalog) (order : NameOrder)
    (options : List ValidatorOption) :
    Keeps 0 (fresh catalog order (.ofOptions options)) (withOptions catalog order options) :=
  preloadAll_keeps (settled_fresh 0 catalog order _) _

/-- What has been asked about types of one pool leaves a validator settled and configured as its
options say. -/
theorem answerAll_withOptions_keeps (catalog : Catalog) (order : NameOrder)
    (options : List ValidatorOption) {history : List Request}
    (hhistory : ∀ earlier ∈ history, earlier.pool = 0) :
    Keeps 0 (fresh catalog order (.ofOptions options))
      ((withOptions catalog order options).answerAll history).1 :=
  have hnew := withOptions_keeps catalog order options
  hnew.trans (answerAll_keeps hnew.settled hhistory)

/-- A validator over the first pool of a catalog: made with some options, with the names in its
rules in whatever order, and asked about types of this pool only. -/
def Arises (catalog : Catalog) (options : List ValidatorOption) (history : List Request)
    (validator : Validator) : Prop :=
  (∀ earlier ∈ history, earlier.pool = 0) ∧
    ∃ order, validator = ((withOptions catalog order options).answerAll history).1

namespace Arises

variable {catalog : Catalog} {options : List ValidatorOption} {history : List Request}
  {validator : Validator}

theorem settled (h : validator.Arises catalog options history) : validator.Settled 0 := by
  obtain ⟨hhistory, order, rfl⟩ := h
  exact (answerAll_withOptions_keeps catalog order options hhistory).settled

theorem catalog_eq (h : validator.Arises catalog options history) :
    validator.sources.catalog = catalog := by
  obtain ⟨hhistory, order, rfl⟩ := h
  rw [(answerAll_withOptions_keeps catalog order options hhistory).sources_eq]
  rfl

end Arises

end Validator

/-! ## A type that is nested in itself -/

namespace Sample

/-- Nodes have a name, and a child that is a node. -/
def nodeType : MessageType where
  fullName := "Node"
  fields := [⟨"name", "Node.name", "name", 1, .scalar .string, .singular, none, []⟩,
    ⟨"child", "Node.child", "child", 2, .message "Node", .singular, none, []⟩]
  oneofs := []
  extensions := []
  options := []

def catalog : Catalog := .single ⟨[("Node", nodeType)]⟩

/-- A node needs a name, and its child has to be in order as well. -/
def rules : ValidatorOption :=
  .rules (.ofList
    [⟨"Node", .field "name", .required true⟩, ⟨"Node", .field "child", .recurse true⟩])

/-- A node with a child, both without a name. -/
def nameless : Message := ⟨"Node", [(2, .message "Node" [])]⟩

end Sample

namespace Validator

/-- **Answers do not depend on history.**  A validator that compiles on demand, has been made with
some options and has been asked anything about the types of its pool answers the next call as its
options say, whatever types they list to compile beforehand. -/
theorem answer_answerAll_withOptions {catalog : Catalog} {order : NameOrder}
    {options : List ValidatorOption} (hlazy : ValidatorOption.disableLazy ∉ options)
    {history : List Request} (hhistory : ∀ earlier ∈ history, earlier.pool = 0) {request : Request}
    (hrequest : request.pool = 0) :
    (((withOptions catalog order options).answerAll history).1.answer request).2 =
      request.expected (fresh catalog order (.ofOptions options)).sources
        (Settings.ofOptions options).manner := by
  have hused := answerAll_withOptions_keeps catalog order options hhistory
  have hisLazy : (Settings.ofOptions options).isLazy = true := Settings.isLazy_foldl _ hlazy
  rw [hused.settled.answer_eq (hused.isLazy_eq.trans hisLazy) hrequest, hused.sources_eq,
    hused.manner_eq]
  rfl

/-- A new validator answers in the same way if the options that list types are left out. -/
theorem answer_withOptions_filter {catalog : Catalog} {order : NameOrder}
    {options : List ValidatorOption} (hlazy : ValidatorOption.disableLazy ∉ options)
    {request : Request} (hrequest : request.pool = 0) :
    ((withOptions catalog order (options.filter (!·.isPreload))).answer request).2 =
      request.expected (fresh catalog order (.ofOptions options)).sources
        (Settings.ofOptions options).manner := by
  have hfilter : ValidatorOption.disableLazy ∉ options.filter (!·.isPreload) := fun hmem =>
    hlazy (List.mem_filter.mp hmem).1
  have hnew := @answer_answerAll_withOptions catalog order _ hfilter [] nofun request hrequest
  rw [Settings.ofOptions_filter] at hnew
  exact hnew

end Validator

end MessageConstraints
