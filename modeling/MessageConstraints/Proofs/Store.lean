import Mathlib.Tactic.Common
import MessageConstraints.Proofs.Evaluation
import MessageConstraints.Validator

/-!
# What the store knows

What a type compiles to depends on its declaration and on the rules only.  `Sources.compiledAt`
says what that is, without a store.  A store in which everything has been found that way is
`Store.Faithful`; it is `Store.Closed` if it has also compiled whatever its compiled types are
nested with.  Both hold of the empty store, and the walk that compiles a type keeps them, in
whatever order it meets the types (`Store.run_reached`): the tasks that are left cover what is still
missing.
-/

namespace MessageConstraints

namespace Sources

/-- Whether a name is declared in a pool. -/
def Declares (sources : Sources) (pool : Nat) (name : String) : Prop :=
  (sources.catalog.type? ⟨pool, name⟩).isSome = true

/-- What the schema of a name comes to by itself. -/
def schemaAt (sources : Sources) (pool : Nat) (name : String) :
    Except CompileError MessageSchema :=
  (sources.schema? ⟨pool, name⟩).getD (.error (.notCompiled name))

/-- What a name compiles to by itself. -/
def compiledAt (sources : Sources) (pool : Nat) (name : String) : Compiled :=
  match sources.schemaAt pool name with
  | .error cause => .failed cause
  | .ok schema => .ofSchema schema

/-- The checks that a name has by itself, or why it has none. -/
def checksAt (sources : Sources) (pool : Nat) : CheckTable := fun name =>
  (sources.compiledAt pool name).result

/-- A name that is not declared has no checks. -/
theorem checksAt_of_not_declares {sources : Sources} {pool : Nat} {name : String}
    (h : ¬ sources.Declares pool name) :
    sources.checksAt pool name = .error (.notCompiled name) := by
  have htype : sources.catalog.type? ⟨pool, name⟩ = none := by
    simpa [Declares] using h
  simp [checksAt, compiledAt, schemaAt, schema?, htype, Compiled.failed, Compiled.result]

end Sources

/-- A type has checks if nothing was inadmissible. -/
theorem Compiled.result_eq_ok_iff {compiled : Compiled} {checks : List Check} :
    compiled.result = .ok checks ↔ compiled.error? = none ∧ compiled.checks = checks := by
  unfold result
  cases compiled.error? <;> simp

/-- A type that has checks is nested with the types that these are for. -/
theorem Compiled.mem_nested_of_result {compiled : Compiled} {checks : List Check} {check : Check}
    {nested : String} (hresult : compiled.result = .ok checks) (hmem : check ∈ checks)
    (hnested : check.nested? = some nested) : nested ∈ compiled.nested := by
  obtain ⟨-, rfl⟩ := result_eq_ok_iff.mp hresult
  exact List.mem_filterMap.mpr ⟨check, hmem, hnested⟩

namespace Store

variable {sources : Sources} {pool : Nat}

/-- Everything in the store is what its name stands for in the pool. -/
structure Faithful (sources : Sources) (pool : Nat) (store : Store) : Prop where
  schema_eq : ∀ {name placed}, store.schemas.find? name = some placed →
    placed.pool = pool ∧ sources.schemaAt pool name = .ok placed.schema
  compiled_eq : ∀ {name compiled}, store.compiled.find? name = some compiled →
    sources.Declares pool name ∧ compiled = sources.compiledAt pool name

/-- A name that is declared has been compiled. -/
def Covers (sources : Sources) (pool : Nat) (store : Store) (name : String) : Prop :=
  sources.Declares pool name → store.compiled.contains name = true

/-- What the compiled types are nested with is covered, or is the business of a task. -/
def ClosedBy (sources : Sources) (pool : Nat) (store : Store) (tasks : List Task) : Prop :=
  ∀ name compiled, store.compiled.find? name = some compiled → ∀ nested ∈ compiled.nested,
    store.Covers sources pool nested ∨ .enter ⟨pool, nested⟩ ∈ tasks

/-- What the compiled types are nested with is covered. -/
def Closed (sources : Sources) (pool : Nat) (store : Store) : Prop :=
  store.ClosedBy sources pool []

/-- The store keeps what another one has compiled. -/
def Extends (store earlier : Store) : Prop :=
  ∀ name compiled, earlier.compiled.find? name = some compiled →
    store.compiled.find? name = some compiled

theorem faithful_empty (sources : Sources) (pool : Nat) : Faithful sources pool empty where
  schema_eq h := by simp [empty] at h
  compiled_eq h := by simp [empty] at h

theorem closed_empty (sources : Sources) (pool : Nat) : Closed sources pool empty := by
  intro name compiled h
  simp [empty] at h

theorem Extends.contains {store earlier : Store} (h : store.Extends earlier) {name : String}
    (hname : earlier.compiled.contains name = true) : store.compiled.contains name = true := by
  obtain ⟨compiled, hfind⟩ := Option.isSome_iff_exists.mp hname
  exact Option.isSome_iff_exists.mpr ⟨compiled, h name compiled hfind⟩

theorem Covers.mono {store earlier : Store} {name : String}
    (h : earlier.Covers sources pool name) (hext : store.Extends earlier) :
    store.Covers sources pool name :=
  fun hdeclared => hext.contains (h hdeclared)

/-! ## Single steps -/

/-- Resolving gives what the name stands for, whatever the store has resolved before. -/
theorem Faithful.resolve_snd {store : Store} (h : store.Faithful sources pool) (name : String) :
    (store.resolve sources ⟨pool, name⟩).2 =
      (sources.schemaAt pool name).map (PlacedSchema.mk pool) := by
  unfold resolve
  cases hfind : store.schemas.find? name with
  | some placed =>
    obtain ⟨hpool, hschema⟩ := h.schema_eq hfind
    rw [hschema, ← hpool]
    rfl
  | none =>
    simp only [Sources.schemaAt]
    rcases sources.schema? ⟨pool, name⟩ with _ | _ | _ <;> rfl

theorem Faithful.resolve {store : Store} (h : store.Faithful sources pool) (name : String) :
    (store.resolve sources ⟨pool, name⟩).1.Faithful sources pool := by
  unfold Store.resolve
  cases hfind : store.schemas.find? name with
  | some placed => exact h
  | none =>
    rcases hschema : sources.schema? ⟨pool, name⟩ with _ | cause | schema
    · exact h
    · exact h
    · refine ⟨fun {other placed} hplaced => ?_, h.compiled_eq⟩
      rw [NameMap.find?_insert] at hplaced
      by_cases hname : name = other
      · rw [if_pos hname] at hplaced
        obtain rfl := Option.some_inj.mp hplaced
        subst hname
        exact ⟨rfl, by rw [Sources.schemaAt, hschema]; rfl⟩
      · rw [if_neg hname] at hplaced
        exact h.schema_eq hplaced

/-- What a type compiles to is what its name stands for. -/
theorem Faithful.compileSchema_eq {store : Store} (h : store.Faithful sources pool)
    (name : String) :
    compileSchema (store.resolve sources ⟨pool, name⟩).2 =
      (sources.compiledAt pool name,
        (sources.compiledAt pool name).nested.map (TypeRef.mk pool)) := by
  rw [h.resolve_snd, Sources.compiledAt]
  cases sources.schemaAt pool name <;> rfl

/-- Entering a type writes what its name stands for. -/
theorem Faithful.compiled_enter {store : Store} (h : store.Faithful sources pool)
    (name : String) :
    (store.enter sources ⟨pool, name⟩).1.compiled =
      store.compiled.insert name (sources.compiledAt pool name) := by
  simp only [enter, h.compileSchema_eq, compiled_resolve]

/-- Entering a type leads to the types that it is nested with. -/
theorem Faithful.mem_enter {store : Store} (h : store.Faithful sources pool) {name : String}
    {ref : TypeRef} :
    .enter ref ∈ (store.enter sources ⟨pool, name⟩).2 ↔
      ∃ nested ∈ (sources.compiledAt pool name).nested, ref = ⟨pool, nested⟩ := by
  simp only [enter, h.compileSchema_eq, List.mem_append, List.mem_map, List.mem_singleton]
  constructor
  · rintro (⟨_, ⟨nested, hnested, rfl⟩, heq⟩ | heq)
    · exact ⟨nested, hnested, (Task.enter.inj heq).symm⟩
    · cases heq
  · rintro ⟨nested, hnested, rfl⟩
    exact Or.inl ⟨_, ⟨nested, hnested, rfl⟩, rfl⟩

theorem Faithful.enter {store : Store} (h : store.Faithful sources pool) {name : String}
    (hdeclared : sources.Declares pool name) :
    (store.enter sources ⟨pool, name⟩).1.Faithful sources pool := by
  refine ⟨fun hplaced => (h.resolve name).schema_eq hplaced, fun {other compiled} hcompiled => ?_⟩
  rw [h.compiled_enter, NameMap.find?_insert] at hcompiled
  by_cases hname : name = other
  · rw [if_pos hname] at hcompiled
    subst hname
    exact ⟨hdeclared, (Option.some_inj.mp hcompiled).symm⟩
  · rw [if_neg hname] at hcompiled
    exact h.compiled_eq hcompiled

/-- Entering a type that awaits it keeps what has been compiled. -/
theorem extends_enter {store : Store} {ref : TypeRef} (h : store.awaits sources ref = true) :
    (store.enter sources ref).1.Extends store := by
  intro other compiled hfind
  have hfresh : store.compiled.contains ref.name = false := by
    simp only [awaits, Bool.and_eq_true, Bool.not_eq_true'] at h
    exact h.2
  have hne : ref.name ≠ other := by
    rintro rfl
    simp [NameMap.contains, hfind] at hfresh
  simp only [enter, compiled_resolve]
  rw [NameMap.find?_insert, if_neg hne]
  exact hfind

/-! ## The walk -/

/-- All tasks are about types of one pool. -/
def InPool (pool : Nat) (tasks : List Task) : Prop :=
  ∀ ref, .enter ref ∈ tasks → ref.pool = pool

/-- What a list of tasks, carried out from a faithful store, leaves behind. -/
structure Reached (sources : Sources) (pool : Nat) (store : Store) (tasks : List Task)
    (result : Store) : Prop where
  faithful : result.Faithful sources pool
  closed : result.Closed sources pool
  keeps : result.Extends store
  covers : ∀ name, .enter ⟨pool, name⟩ ∈ tasks → result.Covers sources pool name

/-- A type that awaits compiling is declared and not compiled. -/
theorem awaits_iff {store : Store} {name : String} :
    store.awaits sources ⟨pool, name⟩ = true ↔
      sources.Declares pool name ∧ store.compiled.contains name = false := by
  rw [awaits, Bool.and_eq_true, Bool.not_eq_true']
  rfl

/-- A type that does not await compiling is covered. -/
theorem covers_of_not_awaits {store : Store} {name : String}
    (h : ¬ store.awaits sources ⟨pool, name⟩ = true) : store.Covers sources pool name := by
  intro hdeclared
  rw [awaits_iff] at h
  by_contra hnot
  exact h ⟨hdeclared, Bool.not_eq_true _ ▸ hnot⟩

/-- A task about a type that is covered has nothing to do. -/
theorem ClosedBy.drop {store : Store} {name : String} {rest : List Task}
    (h : store.ClosedBy sources pool (.enter ⟨pool, name⟩ :: rest))
    (hcovers : store.Covers sources pool name) : store.ClosedBy sources pool rest := by
  intro other compiled hfind nested hnested
  rcases h other compiled hfind nested hnested with hnestedCovers | htask
  · exact Or.inl hnestedCovers
  · rcases List.mem_cons.mp htask with heq | hrest
    · obtain rfl : nested = name := congrArg TypeRef.name (Task.enter.inj heq)
      exact Or.inl hcovers
    · exact Or.inr hrest

/-- A type that has just been entered is covered. -/
theorem Faithful.covers_enter {store : Store} (h : store.Faithful sources pool) (name : String) :
    (store.enter sources ⟨pool, name⟩).1.Covers sources pool name := by
  intro _
  rw [h.compiled_enter, NameMap.contains_insert]
  simp

/-- Entering a type hands what it is nested with over to the new tasks. -/
theorem Faithful.closedBy_enter {store : Store} (h : store.Faithful sources pool)
    {name : String} {rest : List Task} (hawaits : store.awaits sources ⟨pool, name⟩ = true)
    (hclosed : store.ClosedBy sources pool (.enter ⟨pool, name⟩ :: rest)) :
    (store.enter sources ⟨pool, name⟩).1.ClosedBy sources pool
      ((store.enter sources ⟨pool, name⟩).2 ++ rest) := by
  refine ClosedBy.drop ?_ (h.covers_enter name)
  intro other compiled hfind nested hnested
  rw [h.compiled_enter, NameMap.find?_insert] at hfind
  by_cases hname : name = other
  · rw [if_pos hname] at hfind
    obtain rfl := Option.some_inj.mp hfind
    have htask : .enter ⟨pool, nested⟩ ∈ (store.enter sources ⟨pool, name⟩).2 :=
      h.mem_enter.mpr ⟨nested, hnested, rfl⟩
    exact Or.inr (List.mem_cons_of_mem _ (List.mem_append_left _ htask))
  · rw [if_neg hname] at hfind
    rcases hclosed other compiled hfind nested hnested with hcovers | htask
    · exact Or.inl (hcovers.mono (extends_enter hawaits))
    · refine Or.inr ?_
      rcases List.mem_cons.mp htask with heq | hrest
      · exact List.mem_cons.mpr (Or.inl heq)
      · exact List.mem_cons_of_mem _ (List.mem_append_right _ hrest)

/-- **The walk keeps the store faithful and closes it.**  It ends with everything compiled that its
tasks are about and that these are nested with, whatever had been compiled before. -/
theorem run_reached {store : Store} {tasks : List Task} (hfaithful : store.Faithful sources pool)
    (hpool : InPool pool tasks) (hclosed : store.ClosedBy sources pool tasks) :
    Reached sources pool store tasks (store.run sources tasks) := by
  induction store, tasks using Store.run.induct sources with
  | case1 store =>
    rw [run]
    exact ⟨hfaithful, hclosed, fun _ _ h => h, by simp⟩
  | case2 store event rest ih =>
    rw [run]
    have hrest : store.ClosedBy sources pool rest := fun name compiled hfind nested hnested =>
      (hclosed name compiled hfind nested hnested).imp_right (by simp)
    obtain ⟨hf, hc, hk, hcov⟩ := ih ⟨hfaithful.schema_eq, hfaithful.compiled_eq⟩
      (fun ref href => hpool ref (List.mem_cons_of_mem _ href)) hrest
    exact ⟨hf, hc, hk, fun name hname => hcov name (by simpa using hname)⟩
  | case3 store ref rest hawaits ih =>
    obtain rfl : ref.pool = pool := hpool ref List.mem_cons_self
    have hdeclared : sources.Declares ref.pool ref.name := (awaits_iff.mp hawaits).1
    rw [run, dif_pos hawaits]
    obtain ⟨hf, hc, hk, hcov⟩ := ih (hfaithful.enter hdeclared)
      (by
        intro other hother
        rcases List.mem_append.mp hother with hnew | hrest
        · obtain ⟨nested, -, rfl⟩ := hfaithful.mem_enter.mp hnew
          rfl
        · exact hpool other (List.mem_cons_of_mem _ hrest))
      (hfaithful.closedBy_enter hawaits hclosed)
    refine ⟨hf, hc, fun name compiled h => hk _ _ (extends_enter hawaits _ _ h), ?_⟩
    intro name hname
    rcases List.mem_cons.mp hname with heq | hrest
    · obtain rfl : name = ref.name := congrArg TypeRef.name (Task.enter.inj heq)
      exact (hfaithful.covers_enter ref.name).mono hk
    · exact hcov name (List.mem_append_right _ hrest)
  | case4 store ref rest hnot ih =>
    obtain rfl : ref.pool = pool := hpool ref List.mem_cons_self
    have hdone : store.Covers sources ref.pool ref.name := covers_of_not_awaits hnot
    rw [run, dif_neg hnot]
    obtain ⟨hf, hc, hk, hcov⟩ := ih hfaithful
      (fun other hother => hpool other (List.mem_cons_of_mem _ hother)) (hclosed.drop hdone)
    refine ⟨hf, hc, hk, fun name hname => ?_⟩
    rcases List.mem_cons.mp hname with heq | hrest
    · obtain rfl : name = ref.name := congrArg TypeRef.name (Task.enter.inj heq)
      exact hdone.mono hk
    · exact hcov name hrest

/-! ## Looking checks up -/

/-- A covered name has the checks that it has by itself. -/
theorem Faithful.checks_eq {store : Store} (h : store.Faithful sources pool) {name : String}
    (hcovers : store.Covers sources pool name) :
    store.checks name = sources.checksAt pool name := by
  unfold checks
  cases hfind : store.compiled.find? name with
  | some compiled =>
    obtain ⟨-, rfl⟩ := h.compiled_eq hfind
    rfl
  | none =>
    have hnot : ¬ sources.Declares pool name := by
      intro hdeclared
      have := hcovers hdeclared
      simp [NameMap.contains, hfind] at this
    exact (Sources.checksAt_of_not_declares hnot).symm

/-- In a closed store the checks of a covered name ask about covered names only. -/
theorem Closed.covers_of_names {store : Store} (hclosed : store.Closed sources pool)
    {name nested : String} (hnames : CheckTable.Names store.checks name nested) :
    store.Covers sources pool nested := by
  obtain ⟨checks, hchecks, check, hmem, hnested⟩ := hnames
  cases hfind : store.compiled.find? name with
  | none => simp [Store.checks, hfind] at hchecks
  | some compiled =>
    have hresult : compiled.result = .ok checks := by
      rw [← hchecks, Store.checks, hfind]
    have hin := Compiled.mem_nested_of_result hresult hmem hnested
    rcases hclosed name compiled hfind nested hin with hcovers | htask
    · exact hcovers
    · exact absurd htask List.not_mem_nil

/-- **A store does not show in the answers.**  A message of a covered type comes to what it comes
to under the checks that the types have by themselves. -/
theorem Faithful.evaluate_eq {store : Store} (h : store.Faithful sources pool)
    (hclosed : store.Closed sources pool) {typeName : String}
    (hcovers : store.Covers sources pool typeName) (reporting : Reporting) (limit : Nat)
    (message : Message) :
    store.evaluate reporting limit typeName message =
      (sources.checksAt pool).evaluate reporting limit limit typeName message :=
  CheckTable.evaluate_congr (store.Covers sources pool) (fun _ => h.checks_eq)
    (fun _ _ _ => hclosed.covers_of_names) reporting limit limit hcovers message

end Store
end MessageConstraints
