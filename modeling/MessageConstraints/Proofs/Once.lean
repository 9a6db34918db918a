import Mathlib.Logic.Relation
import Mathlib.Order.RelClasses
import Mathlib.Tactic.Common
import MessageConstraints.Proofs.Eager

/-!
# Every type is compiled once

Types may be nested in each other in circles.  The walk over them ends all the same, because it
enters a type only if that has not been done (`Store.wellFounded_step`), and what it enters it
announces, once (`Store.run_announced`).  No call on a validator compiles anything in another way,
so in whatever order types are preloaded, messages validated and schemas asked for, what has been
announced is what has been compiled (`Store.Announced`), and it stays compiled in the same way
(`Validator.compiled_once`).
-/

namespace MessageConstraints

/-! ## The walk comes to an end -/

namespace Store

variable {sources : Sources}

/-- One step of the walk over the types to compile: the first of the tasks that are left. -/
inductive Step (sources : Sources) : Store × List Task → Store × List Task → Prop
  | announce (store : Store) (event : Event) (rest : List Task) :
      Step sources (store, .announce event :: rest) (store.record event, rest)
  | enter {store : Store} {ref : TypeRef} (rest : List Task) :
      store.awaits sources ref = true →
      Step sources (store, .enter ref :: rest)
        ((store.enter sources ref).1, (store.enter sources ref).2 ++ rest)
  | skip {store : Store} {ref : TypeRef} (rest : List Task) :
      ¬ store.awaits sources ref = true → Step sources (store, .enter ref :: rest) (store, rest)

/-- What gets smaller in every step: the declared types that are not compiled, or, while these stay
the same, the tasks. -/
def workLeft (sources : Sources) (state : Store × List Task) : Nat × Nat :=
  (state.1.remaining sources, state.2.length)

theorem Step.workLeft_lt {before after : Store × List Task} (h : Step sources before after) :
    Prod.Lex (· < ·) (· < ·) (workLeft sources after) (workLeft sources before) := by
  cases h with
  | announce store event rest => exact Prod.Lex.right _ (Nat.lt_succ_self _)
  | enter rest hawaits => exact Prod.Lex.left _ _ (remaining_enter_lt hawaits)
  | skip rest hnot => exact Prod.Lex.right _ (Nat.lt_succ_self _)

/-- **No walk goes on forever**, from whatever store and tasks it starts. -/
theorem wellFounded_step (sources : Sources) :
    WellFounded fun after before => Step sources before after := by
  have hlex : WellFounded (Prod.Lex (· < ·) (· < · : Nat → Nat → Prop)) :=
    WellFounded.prod_lex Nat.lt_wfRel.wf Nat.lt_wfRel.wf
  exact Subrelation.wf Step.workLeft_lt (InvImage.wf (workLeft sources) hlex)

/-- The steps of a walk lead to where the walk ends. -/
theorem steps_run (store : Store) (tasks : List Task) :
    Relation.ReflTransGen (Step sources) (store, tasks) (store.run sources tasks, []) := by
  induction store, tasks using Store.run.induct sources with
  | case1 store =>
    rw [run]
  | case2 store event rest ih =>
    rw [run]
    exact ih.head (.announce store event rest)
  | case3 store ref rest hawaits ih =>
    rw [run, dif_pos hawaits]
    exact ih.head (.enter rest hawaits)
  | case4 store ref rest hnot ih =>
    rw [run, dif_neg hnot]
    exact ih.head (.skip rest hnot)

end Store

/-! ## What is announced -/

namespace Event

/-- The type that an event announces to have been compiled, or refused. -/
def announced? : Event → Option String
  | validating _ => none
  | compiled typeName _ => some typeName
  | refused typeName _ => some typeName

@[simp] theorem announced?_ofCompiled (name : String) (outcome : Compiled) :
    (ofCompiled name outcome).announced? = some name := by
  unfold ofCompiled
  split <;> rfl

end Event

/-- The event that a task is to report. -/
def Task.event? : Task → Option Event
  | .announce event => some event
  | .enter _ => none

namespace Store

variable {sources : Sources} {store : Store}

/-- The outcomes of all types that have been compiled, as events. -/
def outcomes (store : Store) : List Event :=
  store.compiled.entries.map fun entry => .ofCompiled entry.1 entry.2

/-- What has been announced, or is left to announce, are the outcomes of the types that have been
compiled, each of them once. -/
def AnnouncedBy (tasks : List Task) (store : Store) : Prop :=
  ((store.events ++ tasks.filterMap Task.event?).filter (·.announced?.isSome)).Perm store.outcomes

/-- What has been announced are the outcomes of the types that have been compiled, each of them
once. -/
def Announced (store : Store) : Prop :=
  (store.events.filter (·.announced?.isSome)).Perm store.outcomes

theorem announcedBy_nil : store.AnnouncedBy [] ↔ store.Announced := by
  rw [AnnouncedBy, List.filterMap_nil, List.append_nil, Announced]

/-- To compile a type is not to announce anything yet. -/
theorem announcedBy_enter {ref : TypeRef} {rest : List Task} :
    store.AnnouncedBy (.enter ref :: rest) ↔ store.AnnouncedBy rest := Iff.rfl

theorem announced_empty : Announced empty :=
  List.Perm.refl []

theorem outcomes_enter {ref : TypeRef} (hawaits : store.awaits sources ref = true) :
    (store.enter sources ref).1.outcomes = store.outcomes ++
      [.ofCompiled ref.name (compileSchema (store.resolve sources ref).2).1] := by
  have hfresh : store.compiled.contains ref.name = false := by
    simp only [awaits, Bool.and_eq_true, Bool.not_eq_true'] at hawaits
    exact hawaits.2
  rw [outcomes, compiled_enter, NameMap.entries_insert _ hfresh, List.map_append]
  rfl

theorem events_resolve (ref : TypeRef) :
    (store.resolve sources ref).1.events = store.events := by
  unfold resolve
  split
  · rfl
  · split <;> rfl

theorem events_enter (ref : TypeRef) : (store.enter sources ref).1.events = store.events :=
  events_resolve ref

/-- Entering a type leaves one event to announce: its outcome. -/
theorem event?_enter (ref : TypeRef) :
    (store.enter sources ref).2.filterMap Task.event? =
      [.ofCompiled ref.name (compileSchema (store.resolve sources ref).2).1] := by
  have hnone : ∀ refs : List TypeRef, (refs.map Task.enter).filterMap Task.event? = [] := by
    intro refs
    rw [List.filterMap_map]
    exact List.filterMap_eq_nil_iff.mpr fun _ _ => rfl
  simp only [enter, List.filterMap_append, hnone]
  rfl

/-- Entering a type compiles one type and leaves its outcome to announce. -/
theorem AnnouncedBy.enter {ref : TypeRef} {rest : List Task}
    (hawaits : store.awaits sources ref = true) (h : store.AnnouncedBy (.enter ref :: rest)) :
    (store.enter sources ref).1.AnnouncedBy ((store.enter sources ref).2 ++ rest) := by
  rw [announcedBy_enter] at h
  unfold AnnouncedBy at h ⊢
  rw [events_enter, outcomes_enter hawaits, List.filterMap_append, event?_enter]
  generalize hevent : Event.ofCompiled ref.name
    (compileSchema (store.resolve sources ref).2).1 = event
  have hlast : (store.events ++ ([event] ++ rest.filterMap Task.event?)).Perm
      ((store.events ++ rest.filterMap Task.event?) ++ [event]) := by
    rw [List.append_assoc]
    exact List.perm_append_comm.append_left _
  have hkept : [event].filter (·.announced?.isSome) = [event] := by
    simp [← hevent]
  refine (hlast.filter _).trans ?_
  rw [List.filter_append, hkept]
  exact h.append_right _

/-- **The walk announces what it compiles.**  If its tasks are to announce just what has been
compiled and not announced, nothing is left to announce when it ends. -/
theorem run_announced {tasks : List Task} (h : store.AnnouncedBy tasks) :
    (store.run sources tasks).Announced := by
  induction store, tasks using Store.run.induct sources with
  | case1 store =>
    rw [run]
    exact announcedBy_nil.mp h
  | case2 store event rest ih =>
    rw [run]
    have htasks : (Task.announce event :: rest).filterMap Task.event? =
        event :: rest.filterMap Task.event? := rfl
    refine ih ?_
    rw [AnnouncedBy, htasks, List.append_cons] at h
    exact h
  | case3 store ref rest hawaits ih =>
    rw [run, dif_pos hawaits]
    exact ih (h.enter hawaits)
  | case4 store ref rest hnot ih =>
    rw [run, dif_neg hnot]
    exact ih (announcedBy_enter.mp h)

/-! ### Events, one for each type -/

/-- A type has been compiled in some way, and this is the one thing that was ever announced of
it. -/
def SettlesAs (store : Store) (name : String) (outcome : Compiled) : Prop :=
  store.compiled.find? name = some outcome ∧
    store.events.filter (fun event => event.announced? = some name) = [.ofCompiled name outcome]

/-- No type is announced twice. -/
theorem Announced.nodup (h : store.Announced) (hnodup : store.compiled.names.Nodup) :
    (store.events.filterMap Event.announced?).Nodup := by
  have hnames : store.outcomes.filterMap Event.announced? = store.compiled.names := by
    rw [outcomes, List.filterMap_map, NameMap.names, ← List.filterMap_eq_map]
    congr 1
    funext entry
    exact Event.announced?_ofCompiled entry.1 entry.2
  have hsame : (store.events.filter (·.announced?.isSome)).filterMap Event.announced? =
      store.events.filterMap Event.announced? := by
    rw [List.filterMap_filter]
    congr 1
    funext event
    cases event.announced? <;> rfl
  rw [← hsame]
  refine (h.filterMap Event.announced?).nodup_iff.mpr ?_
  rwa [hnames]

/-- What has been compiled is announced as what it is. -/
theorem Announced.settlesAs (h : store.Announced) (hnodup : store.compiled.names.Nodup)
    {name : String} {outcome : Compiled} (hfind : store.compiled.find? name = some outcome) :
    store.SettlesAs name outcome := by
  refine ⟨hfind, ?_⟩
  have houtcomes : store.outcomes.filter (fun event => event.announced? = some name) =
      [.ofCompiled name outcome] := by
    have hpred : ((fun event : Event => decide (event.announced? = some name)) ∘
        fun entry : String × Compiled => Event.ofCompiled entry.1 entry.2) =
          fun entry => decide (entry.1 = name) := by
      funext entry
      simp
    rw [outcomes, List.filter_map, hpred, NameMap.filter_entries hnodup hfind]
    rfl
  have hsame : (store.events.filter (·.announced?.isSome)).filter
      (fun event => event.announced? = some name) =
        store.events.filter (fun event => event.announced? = some name) := by
    rw [List.filter_filter]
    refine List.filter_congr fun event _ => ?_
    cases event.announced? <;> simp
  rw [← hsame]
  refine List.perm_singleton.mp ?_
  rw [← houtcomes]
  exact h.filter _

end Store

/-! ## Calls and preloading, in any order -/

namespace Validator

/-- Whatever can be asked of a validator: to compile a type beforehand, or to answer a request. -/
inductive Call where
  | preload (ref : TypeRef)
  | ask (request : Request)

namespace Call

/-- The pool that a call is about. -/
def pool : Call → Nat
  | preload ref => ref.pool
  | ask request => request.pool

/-- The type that a call compiles, unless that has been done. -/
def compiles? (isLazy : Bool) : Call → Option TypeRef
  | preload ref => some ref
  | ask (.validate pool message _) => if isLazy then some ⟨pool, message.typeName⟩ else none
  | ask (.violations pool message) => if isLazy then some ⟨pool, message.typeName⟩ else none
  | ask (.schema _) => none

end Call

/-- The validator after a call. -/
def perform (validator : Validator) : Call → Validator
  | .preload ref => (validator.preload ref).1
  | .ask request => (validator.answer request).1

/-- The validator after some calls. -/
def performAll (validator : Validator) (calls : List Call) : Validator :=
  calls.foldl perform validator

end Validator

/-! ### What calls keep -/

/-- After every call, what has been announced is what has been compiled. -/
theorem Store.callInvariant_announced (sources : Sources) : CallInvariant sources Announced where
  validating store typeName h := by
    have hkept : (store.record (.validating typeName)).events.filter (·.announced?.isSome) =
        store.events.filter (·.announced?.isSome) := by
      rw [record, List.filter_append]
      exact List.append_nil _
    rw [Announced, hkept]
    exact h
  resolve store ref h := by
    rw [Announced, events_resolve, outcomes, compiled_resolve]
    exact h
  compile store ref h := run_announced (announcedBy_enter.mpr (announcedBy_nil.mpr h))

namespace Validator

variable {validator : Validator} {pool : Nat}

theorem sources_perform (validator : Validator) (call : Call) :
    (validator.perform call).sources = validator.sources := by
  cases call with
  | preload ref => rfl
  | ask request => exact validator.sources_answer request

theorem sources_performAll (validator : Validator) (calls : List Call) :
    (validator.performAll calls).sources = validator.sources := by
  induction calls generalizing validator with
  | nil => rfl
  | cons call rest ih => exact (ih _).trans (validator.sources_perform call)

/-- What each call keeps, all calls keep. -/
theorem holds_performAll {holds : Store → Prop} (h : Store.CallInvariant validator.sources holds)
    (hstore : holds validator.store) (calls : List Call) :
    holds (validator.performAll calls).store := by
  induction calls generalizing validator with
  | nil => exact hstore
  | cons call rest ih =>
    have hsources := validator.sources_perform call
    have hfirst : holds (validator.perform call).store := by
      cases call with
      | preload ref => exact h.compile validator.store ref hstore
      | ask request => exact h.answer hstore request
    exact ih (hsources ▸ h) hfirst

theorem extends_performAll (validator : Validator) (calls : List Call) :
    (validator.performAll calls).store.Extends validator.store :=
  holds_performAll (Store.invariant_extends validator.sources validator.store).callInvariant
    (fun _ _ h => h) calls

/-- **Whatever has been asked of a validator, what calls keep holds of it**, if it holds as long as
nothing is compiled. -/
theorem holds_withOptions_performAll {catalog : Catalog} {order : NameOrder}
    {options : List ValidatorOption} {calls : List Call} {holds : Store → Prop}
    (h : Store.CallInvariant ((withOptions catalog order options).performAll calls).sources holds)
    (hempty : holds .empty) :
    holds ((withOptions catalog order options).performAll calls).store := by
  rw [sources_performAll] at h
  refine holds_performAll h ?_ calls
  rw [(withOptions_keeps catalog order options).sources_eq] at h
  exact h.preloadAll hempty _

/-! ### Calls about one pool -/

theorem perform_keeps (h : validator.Settled pool) {call : Call} (hpool : call.pool = pool) :
    Keeps pool validator (validator.perform call) := by
  cases call with
  | preload ref =>
    subst hpool
    exact h.compile ref.name
  | ask request => exact answer_keeps h hpool

theorem performAll_keeps (h : validator.Settled pool) {calls : List Call}
    (hpool : ∀ call ∈ calls, call.pool = pool) :
    Keeps pool validator (validator.performAll calls) := by
  induction calls generalizing validator with
  | nil => exact h.keeps
  | cons call rest ih =>
    have hfirst := perform_keeps h (hpool call List.mem_cons_self)
    exact hfirst.trans
      (ih hfirst.settled fun later hlater => hpool later (List.mem_cons_of_mem _ hlater))

/-- A call that compiles a type leaves it compiled. -/
theorem Settled.covers_perform (h : validator.Settled pool) {call : Call}
    (hpool : call.pool = pool) {ref : TypeRef}
    (href : call.compiles? validator.isLazy = some ref) :
    (validator.perform call).store.Covers validator.sources pool ref.name := by
  have hmessage : ∀ (message : Message) (options : List CallOption),
      (if validator.isLazy then some (TypeRef.mk pool message.typeName) else none) = some ref →
      (validator.validate pool message options).1.store.Covers validator.sources pool
        ref.name := by
    intro message options hlazy
    split at hlazy
    case isFalse => cases hlazy
    obtain rfl := Option.some.inj hlazy
    exact (h.record (.validating message.typeName)).settled.covers_load (Or.inl ‹_›)
  cases call with
  | preload other =>
    obtain rfl := Option.some.inj href
    subst hpool
    exact (h.reached other.name).covers other.name List.mem_cons_self
  | ask request =>
    subst hpool
    cases request with
    | validate _ message options => exact hmessage message options href
    | violations _ message => exact hmessage message [] href
    | schema other => cases href

/-- Later calls leave compiled what an earlier one has compiled. -/
theorem Settled.covers_performAll (h : validator.Settled pool) {calls : List Call}
    (hpool : ∀ call ∈ calls, call.pool = pool) {call : Call} (hcall : call ∈ calls) {ref : TypeRef}
    (href : call.compiles? validator.isLazy = some ref) :
    (validator.performAll calls).store.Covers validator.sources pool ref.name := by
  induction calls generalizing validator with
  | nil => cases hcall
  | cons first rest ih =>
    have hfirst := perform_keeps h (hpool first List.mem_cons_self)
    rcases List.mem_cons.mp hcall with rfl | hrest
    · have hcovers := h.covers_perform (hpool call List.mem_cons_self) href
      exact hcovers.mono (extends_performAll _ rest)
    · rw [← hfirst.sources_eq]
      rw [← hfirst.isLazy_eq] at href
      exact ih hfirst.settled (fun later hlater => hpool later (List.mem_cons_of_mem _ hlater))
        hrest href

/-! ### The main result -/

/-- A type of the first pool is to be compiled: by the options of a validator, or by one of the
calls on it. -/
def Asks (options : List ValidatorOption) (calls : List Call) (name : String) : Prop :=
  ValidatorOption.Lists options name ∨
    ∃ call ∈ calls, call.compiles? (Settings.ofOptions options).isLazy = some ⟨0, name⟩

/-- If the calls are about the first pool, what a validator is asked to compile is compiled. -/
theorem covers_of_asks (catalog : Catalog) (order : NameOrder) {options : List ValidatorOption}
    {calls : List Call} (hpool : ∀ call ∈ calls, call.pool = 0) {name : String}
    (h : Asks options calls name) :
    ((withOptions catalog order options).performAll calls).store.Covers
      (withOptions catalog order options).sources 0 name := by
  have hmade := withOptions_keeps catalog order options
  rcases h with hlists | ⟨call, hcall, hcompiles⟩
  · have hcovers : (withOptions catalog order options).store.Covers
        (fresh catalog order (.ofOptions options)).sources 0 name :=
      (settled_fresh 0 catalog order _).covers_preloadAll (Settings.mem_preloaded_iff.mpr hlists)
    rw [hmade.sources_eq]
    exact hcovers.mono (extends_performAll _ calls)
  · have hlazy : (withOptions catalog order options).isLazy = (Settings.ofOptions options).isLazy :=
      hmade.isLazy_eq
    exact hmade.settled.covers_performAll hpool hcall (by rw [hlazy]; exact hcompiles)

/-- **Every type is compiled once.**  Walking over types to compile them never goes on forever, and
compiling is such a walk.  A validator that has been made with some options, and asked to compile
types and to answer requests in any order, has announced of no type twice what it was compiled to,
and whatever it has compiled stays as it is in all later calls.  If the calls are about types of one
pool, then all types of the pool that compiling leads to from those asked for have been compiled
to what their names stand for, and this is what has been announced of them, and nothing else. -/
theorem compiled_once (catalog : Catalog) (order : NameOrder) (options : List ValidatorOption)
    (calls : List Call) :
    let validator := (withOptions catalog order options).performAll calls
    (WellFounded (fun after before => Store.Step validator.sources before after) ∧
      ∀ store ref, Relation.ReflTransGen (Store.Step validator.sources)
        (store, [.enter ref]) (store.compile validator.sources ref, [])) ∧
    (validator.store.events.filterMap Event.announced?).Nodup ∧
    (∀ later name outcome, validator.store.compiled.find? name = some outcome →
      (validator.performAll later).store.compiled.find? name = some outcome) ∧
    ((∀ call ∈ calls, call.pool = 0) →
      ∀ name, validator.sources.Reaches 0 (Asks options calls) name →
        validator.sources.Declares 0 name →
          validator.store.SettlesAs name (validator.sources.compiledAt 0 name)) := by
  intro validator
  have hannounced : validator.store.Announced :=
    holds_withOptions_performAll (Store.callInvariant_announced _) Store.announced_empty
  have hnodup : validator.store.compiled.names.Nodup :=
    holds_withOptions_performAll (Store.invariant_nodup _).callInvariant List.nodup_nil
  refine ⟨⟨Store.wellFounded_step _, fun store ref => Store.steps_run store _⟩,
    hannounced.nodup hnodup, fun later => extends_performAll validator later, ?_⟩
  intro hpool name hreaches hdeclares
  have hsettled : validator.Settled 0 :=
    (performAll_keeps (withOptions_keeps catalog order options).settled hpool).settled
  have hasked : ∀ name, Asks options calls name →
      validator.store.Covers validator.sources 0 name := by
    intro name hname
    rw [sources_performAll]
    exact covers_of_asks catalog order hpool hname
  have hcovers := hsettled.covers_of_ledTo hasked hreaches.ledTo
  exact hannounced.settlesAs hnodup (hsettled.1.find?_of_covers hcovers hdeclares)

/-- Nodes are nested in nodes.  Asked to compile them, then about a node, and to compile them again,
a validator has compiled them once. -/
theorem compiled_once_nodes :
    let validator := (withOptions Sample.catalog .written [Sample.rules]).performAll
      [.preload ⟨0, "Node"⟩, .ask (.violations 0 Sample.nameless), .preload ⟨0, "Node"⟩]
    validator.sources.Nests 0 "Node" "Node" ∧
      validator.store.SettlesAs "Node" (validator.sources.compiledAt 0 "Node") := by
  intro validator
  have hcalls : ∀ call ∈ [Call.preload ⟨0, "Node"⟩, .ask (.violations 0 Sample.nameless),
      .preload ⟨0, "Node"⟩], call.pool = 0 := by
    simp [Call.pool, Request.pool]
  obtain ⟨-, -, -, hsettles⟩ := compiled_once Sample.catalog .written [Sample.rules]
    [.preload ⟨0, "Node"⟩, .ask (.violations 0 Sample.nameless), .preload ⟨0, "Node"⟩]
  refine ⟨?_, hsettles hcalls "Node" (.listed (Or.inr ?_)) rfl⟩
  · exact ⟨_, _, rfl, List.mem_cons_of_mem _ List.mem_cons_self, rfl, rfl⟩
  · exact ⟨_, List.mem_cons_self, rfl⟩

end Validator

end MessageConstraints
