import MessageConstraints.Event

/-!
# The store of compiled types

A validator keeps what it has compiled: the schemas it has resolved and the checks it has compiled,
both by the full name of the type, and the events on the way.  Compiling a type also compiles
the types of the nested messages that its checks descend into, each of them once.

The order is that of a depth-first walk: a type is announced after the types nested in it.  The
walk keeps a list of the tasks that are left, and it ends because it enters a type only if the type
is declared and not compiled yet, and compiles it then and there.
-/

namespace MessageConstraints

/-- All that constraints are taken from: the declared types, the registry that tells which options
declare constraints, and the rules given beside them. -/
structure Sources where
  catalog : Catalog
  registry : Registry
  rules : RuleSet

namespace Sources

/-- The schema of a type that the catalog has. -/
def schema? (sources : Sources) (ref : TypeRef) :
    Option (Except CompileError MessageSchema) :=
  (sources.catalog.type? ref).map fun type =>
    MessageSchema.resolve sources.registry sources.rules
      (sources.catalog.pool ref.pool) type

end Sources

/-- A schema with the position of the pool in which the types that it names are found. -/
structure PlacedSchema where
  pool : Nat
  schema : MessageSchema

/-- What has been resolved and compiled so far, by the full name of the type, and the events in
the order in which they happened. -/
structure Store where
  schemas : NameMap PlacedSchema
  compiled : NameMap Compiled
  events : List Event

/-- A step of the walk over the types to compile. -/
inductive Task where
  /-- Compile a type unless that has been done. -/
  | enter (ref : TypeRef)
  /-- Report an event. -/
  | announce (event : Event)

namespace Store

/-- The store in which nothing is compiled. -/
def empty : Store := ⟨.empty, .empty, []⟩

instance : Inhabited Store := ⟨empty⟩

/-- Reports an event. -/
def record (store : Store) (event : Event) : Store :=
  { store with events := store.events ++ [event] }

/-- The schema of a type: the one that was resolved for its name before, or else its own, which is
kept if it can be resolved. -/
def resolve (sources : Sources) (store : Store) (ref : TypeRef) :
    Store × Except CompileError PlacedSchema :=
  match store.schemas.find? ref.name with
  | some placed => (store, .ok placed)
  | none =>
    match sources.schema? ref with
    | none => (store, .error (.notCompiled ref.name))
    | some (.error cause) => (store, .error cause)
    | some (.ok schema) =>
      let placed : PlacedSchema := ⟨ref.pool, schema⟩
      ({ store with schemas := store.schemas.insert ref.name placed }, .ok placed)

/-- What a type compiles to, with references to the types nested in it. -/
def compileSchema : Except CompileError PlacedSchema → Compiled × List TypeRef
  | .error cause => (.failed cause, [])
  | .ok placed =>
    let compiled := Compiled.ofSchema placed.schema
    (compiled, compiled.nested.map fun name => ⟨placed.pool, name⟩)

/-- Compiles a single type and gives the tasks that follow: the nested types in order, then the
announcement. -/
def enter (sources : Sources) (store : Store) (ref : TypeRef) : Store × List Task :=
  let (store, schema) := store.resolve sources ref
  let (compiled, nested) := compileSchema schema
  ({ store with compiled := store.compiled.insert ref.name compiled },
    nested.map Task.enter ++ [.announce (.ofCompiled ref.name compiled)])

/-- Whether a type is declared and not compiled yet. -/
def awaits (sources : Sources) (store : Store) (ref : TypeRef) : Bool :=
  (sources.catalog.type? ref).isSome && !store.compiled.contains ref.name

/-- The number of declared names that are not compiled yet. -/
def remaining (sources : Sources) (store : Store) : Nat :=
  (sources.catalog.names.filter fun name => !store.compiled.contains name).length

/-! ## Termination -/

@[simp] theorem compiled_record (store : Store) (event : Event) :
    (store.record event).compiled = store.compiled := rfl

/-- Resolving a schema compiles nothing. -/
@[simp] theorem compiled_resolve (sources : Sources) (store : Store) (ref : TypeRef) :
    (store.resolve sources ref).1.compiled = store.compiled := by
  unfold resolve
  split
  · rfl
  · split <;> rfl

/-- Entering a type puts exactly its name among the compiled ones. -/
theorem contains_enter (sources : Sources) (store : Store) (ref : TypeRef)
    (name : String) :
    (store.enter sources ref).1.compiled.contains name =
      (decide (ref.name = name) || store.compiled.contains name) := by
  simp [enter, NameMap.contains_insert]

end Store

/-- A name with a value is among the names of a table. -/
theorem NameMap.mem_names_of_find? {α : Type} {table : NameMap α} {name : String} {value : α}
    (h : table.find? name = some value) : name ∈ table.names := by
  obtain ⟨entries⟩ := table
  induction entries with
  | nil => simp [find?, findIn] at h
  | cons entry rest ih =>
    by_cases hk : entry.1 = name
    · simp [names, hk]
    · simp only [find?, findIn, hk, if_false] at h
      simpa [names] using Or.inr (by simpa [names] using ih h)

namespace Catalog

/-- A type that a catalog has is among its names. -/
theorem mem_names_of_type? {catalog : Catalog} {ref : TypeRef} {type : MessageType}
    (h : catalog.type? ref = some type) : ref.name ∈ catalog.names := by
  have hmem := NameMap.mem_names_of_find? h
  unfold pool at hmem
  rw [List.getD_eq_getElem?_getD] at hmem
  cases hpool : catalog.pools[ref.pool]? with
  | none => simp [hpool, NameMap.empty, NameMap.names] at hmem
  | some pool =>
    rw [hpool] at hmem
    exact List.mem_flatMap.mpr ⟨pool, List.mem_of_getElem? hpool, hmem⟩

end Catalog

namespace Store

/-- Entering a type that awaits it leaves fewer names to compile. -/
theorem remaining_enter_lt {sources : Sources} {store : Store} {ref : TypeRef}
    (h : store.awaits sources ref = true) :
    (store.enter sources ref).1.remaining sources < store.remaining sources := by
  simp only [awaits, Bool.and_eq_true, Bool.not_eq_true'] at h
  obtain ⟨type, htype⟩ := Option.isSome_iff_exists.mp h.1
  have hfilter :
      (sources.catalog.names.filter fun name =>
          !(store.enter sources ref).1.compiled.contains name)
        = (sources.catalog.names.filter fun name => !store.compiled.contains name).filter
          fun name => !decide (ref.name = name) := by
    simp [List.filter_filter, contains_enter]
  unfold remaining
  rw [hfilter, List.length_filter_lt_length_iff_exists]
  refine ⟨ref.name, ?_, by simp⟩
  exact List.mem_filter.mpr ⟨Catalog.mem_names_of_type? htype, by simp [h.2]⟩

/-! ## Compiling -/

/-- Carries out tasks, and those that they lead to, in order. -/
def run (sources : Sources) (store : Store) : List Task → Store
  | [] => store
  | .announce event :: rest => run sources (store.record event) rest
  | .enter ref :: rest =>
    if _awaited : store.awaits sources ref then
      run sources (store.enter sources ref).1
        ((store.enter sources ref).2 ++ rest)
    else run sources store rest
termination_by tasks => (store.remaining sources, tasks.length)
decreasing_by
  · exact Prod.Lex.right _ (by simp)
  · exact Prod.Lex.left _ _ (remaining_enter_lt ‹_›)
  · exact Prod.Lex.right _ (by simp)

/-- Compiles a type and the types nested in it, as far as that has not been done. -/
def compile (sources : Sources) (store : Store) (ref : TypeRef) : Store :=
  store.run sources [.enter ref]

/-- The checks of a type, or why there are none. -/
def checks (store : Store) (typeName : String) : Except CompileError (List Check) :=
  match store.compiled.find? typeName with
  | some compiled => compiled.result
  | none => .error (.notCompiled typeName)

end Store

end MessageConstraints
