import Mathlib.Tactic.Common
import MessageConstraints.Proofs.Store

/-!
# What all calls keep

A call changes the store of a validator in steps of three sorts: an event is reported, a schema is
resolved, or a type that awaits it is compiled.  So what each of these steps keeps
(`Store.Invariant`), every sequence of calls keeps, whatever pools they are about
(`Store.Invariant.answerAll`), and preloading keeps it as well.  Some properties fail for a while
when types are compiled, and hold again after the call (`Store.CallInvariant`).

Two invariants hold without any assumption on the pools: what has been compiled is never compiled
again (`Store.invariant_extends`), and whatever compiles goes by the schema that is kept for its
name (`Store.invariant_goesBySchemas`).
-/

namespace MessageConstraints

namespace Store

variable {sources : Sources} {holds : Store → Prop}

/-- A property of stores that every single step keeps. -/
structure Invariant (sources : Sources) (holds : Store → Prop) : Prop where
  record : ∀ store event, holds store → holds (store.record event)
  resolve : ∀ store ref, holds store → holds (store.resolve sources ref).1
  enter : ∀ store ref, store.awaits sources ref = true → holds store →
    holds (store.enter sources ref).1

/-- The walk over the types to compile goes in single steps. -/
theorem Invariant.run (h : Invariant sources holds) {store : Store} {tasks : List Task}
    (hstore : holds store) : holds (store.run sources tasks) := by
  induction store, tasks using Store.run.induct sources with
  | case1 store => rwa [Store.run]
  | case2 store event rest ih =>
    rw [Store.run]
    exact ih (h.record store event hstore)
  | case3 store ref rest hawaits ih =>
    rw [Store.run, dif_pos hawaits]
    exact ih (h.enter store ref hawaits hstore)
  | case4 store ref rest hnot ih =>
    rw [Store.run, dif_neg hnot]
    exact ih hstore

/-- A property of stores that every call keeps.  While types are compiled it may fail, as long as it
holds again afterwards. -/
structure CallInvariant (sources : Sources) (holds : Store → Prop) : Prop where
  validating : ∀ store typeName, holds store → holds (store.record (.validating typeName))
  resolve : ∀ store ref, holds store → holds (store.resolve sources ref).1
  compile : ∀ store ref, holds store → holds (store.compile sources ref)

/-- What every single step keeps, every call keeps. -/
theorem Invariant.callInvariant (h : Invariant sources holds) : CallInvariant sources holds where
  validating store _ hstore := h.record store _ hstore
  resolve := h.resolve
  compile _ _ hstore := h.run hstore

end Store

/-! ## Calls -/

namespace Validator

theorem sources_load (validator : Validator) (ref : TypeRef) :
    (validator.load ref).sources = validator.sources := by
  unfold load
  split <;> rfl

theorem sources_answer (validator : Validator) (request : Request) :
    (validator.answer request).1.sources = validator.sources := by
  cases request with
  | validate pool message options => exact sources_load _ _
  | violations pool message => exact sources_load _ _
  | schema ref => rfl

end Validator

namespace Store

variable {validator : Validator} {holds : Store → Prop}

theorem CallInvariant.load (h : CallInvariant validator.sources holds)
    (hstore : holds validator.store) (ref : TypeRef) : holds (validator.load ref).store := by
  unfold Validator.load
  split
  · exact h.compile validator.store ref hstore
  · exact hstore

theorem CallInvariant.validate (h : CallInvariant validator.sources holds)
    (hstore : holds validator.store) (pool : Nat) (message : Message)
    (options : List CallOption) :
    holds (validator.validate pool message options).1.store := by
  let announced : Validator :=
    { validator with store := validator.store.record (.validating message.typeName) }
  have hannounced : holds announced.store := h.validating validator.store _ hstore
  exact @load announced holds h hannounced _

theorem CallInvariant.answer (h : CallInvariant validator.sources holds)
    (hstore : holds validator.store) (request : Validator.Request) :
    holds (validator.answer request).1.store := by
  cases request with
  | validate pool message options => exact h.validate hstore pool message options
  | violations pool message => exact h.validate hstore pool message []
  | schema ref => exact h.resolve validator.store ref hstore

theorem Invariant.validate (h : Invariant validator.sources holds) (hstore : holds validator.store)
    (pool : Nat) (message : Message) (options : List CallOption) :
    holds (validator.validate pool message options).1.store :=
  h.callInvariant.validate hstore pool message options

/-- **Calls keep what single steps keep.** -/
theorem Invariant.answerAll (h : Invariant validator.sources holds)
    (hstore : holds validator.store) (requests : List Validator.Request) :
    holds (validator.answerAll requests).1.store := by
  induction requests generalizing validator with
  | nil => exact hstore
  | cons request rest ih =>
    have hsources := validator.sources_answer request
    exact ih (hsources ▸ h) (h.callInvariant.answer hstore request)

theorem CallInvariant.preloadAll (h : CallInvariant validator.sources holds)
    (hstore : holds validator.store) (refs : List TypeRef) :
    holds (validator.preloadAll refs).1.store := by
  induction refs generalizing validator with
  | nil => exact hstore
  | cons ref rest ih =>
    have hfirst : holds (validator.preload ref).1.store := h.compile validator.store ref hstore
    exact ih h hfirst

theorem Invariant.preloadAll (h : Invariant validator.sources holds)
    (hstore : holds validator.store) (refs : List TypeRef) :
    holds (validator.preloadAll refs).1.store :=
  h.callInvariant.preloadAll hstore refs

end Store

/-! ## Invariants -/

namespace Store

variable (sources : Sources)

/-- Entering a type writes what its schema compiles to. -/
theorem compiled_enter (store : Store) (ref : TypeRef) :
    (store.enter sources ref).1.compiled =
      store.compiled.insert ref.name (compileSchema (store.resolve sources ref).2).1 := by
  simp only [enter, compiled_resolve]

/-- What has been compiled stays compiled in the same way. -/
theorem invariant_extends (earlier : Store) :
    Invariant sources fun store => store.Extends earlier where
  record _ _ hstore := hstore
  resolve store ref hstore := by
    intro name compiled hfind
    rw [compiled_resolve]
    exact hstore name compiled hfind
  enter store ref hawaits hstore := by
    intro name compiled hfind
    exact extends_enter hawaits name compiled (hstore name compiled hfind)

/-- Whatever has compiled is what the schema compiles to that is kept for its name. -/
def GoesBySchemas (store : Store) : Prop :=
  ∀ name compiled, store.compiled.find? name = some compiled → compiled.error? = none →
    ∃ placed, store.schemas.find? name = some placed ∧ compiled = .ofSchema placed.schema

theorem goesBySchemas_empty : GoesBySchemas empty := by
  intro name compiled hfind
  simp [empty] at hfind

/-- A schema is never replaced. -/
theorem schemas_resolve {store : Store} {ref : TypeRef} {name : String} {placed : PlacedSchema}
    (h : store.schemas.find? name = some placed) :
    (store.resolve sources ref).1.schemas.find? name = some placed := by
  unfold resolve
  cases hfind : store.schemas.find? ref.name with
  | some other => exact h
  | none =>
    have hne : ref.name ≠ name := by
      intro heq
      rw [heq, h] at hfind
      cases hfind
    rcases sources.schema? ref with _ | cause | schema
    · exact h
    · exact h
    · show (store.schemas.insert ref.name _).find? name = some placed
      rw [NameMap.find?_insert, if_neg hne]
      exact h

/-- A schema that is found is kept. -/
theorem find?_schemas_resolve {store : Store} {ref : TypeRef} {placed : PlacedSchema}
    (h : (store.resolve sources ref).2 = .ok placed) :
    (store.resolve sources ref).1.schemas.find? ref.name = some placed := by
  unfold resolve at h ⊢
  cases hfind : store.schemas.find? ref.name with
  | some other =>
    rw [hfind] at h
    obtain rfl := Except.ok.inj h
    exact hfind
  | none =>
    rw [hfind] at h
    rcases hschema : sources.schema? ref with _ | cause | schema
    · rw [hschema] at h
      cases h
    · rw [hschema] at h
      cases h
    · rw [hschema] at h
      obtain rfl := Except.ok.inj h
      show (store.schemas.insert ref.name _).find? ref.name = _
      rw [NameMap.find?_insert, if_pos rfl]

theorem invariant_goesBySchemas : Invariant sources GoesBySchemas where
  record _ _ hstore := hstore
  resolve store ref hstore := by
    intro name compiled hfind herror
    rw [compiled_resolve] at hfind
    obtain ⟨placed, hplaced, rfl⟩ := hstore name compiled hfind herror
    exact ⟨placed, schemas_resolve sources hplaced, rfl⟩
  enter store ref _ hstore := by
    intro name compiled hfind herror
    rw [compiled_enter, NameMap.find?_insert] at hfind
    by_cases hname : ref.name = name
    · subst hname
      rw [if_pos rfl] at hfind
      obtain rfl := Option.some_inj.mp hfind
      -- A type whose schema cannot be resolved has an error.
      cases hplaced : (store.resolve sources ref).2 with
      | error cause =>
        rw [hplaced] at herror
        cases herror
      | ok placed => exact ⟨placed, find?_schemas_resolve sources hplaced, rfl⟩
    · rw [if_neg hname] at hfind
      obtain ⟨placed, hplaced, rfl⟩ := hstore name compiled hfind herror
      exact ⟨placed, schemas_resolve sources hplaced, rfl⟩

end Store

end MessageConstraints
