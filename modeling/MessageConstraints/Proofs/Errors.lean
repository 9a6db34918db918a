import MessageConstraints.Proofs.Evaluation
import MessageConstraints.Proofs.Likeness
import MessageConstraints.Proofs.Tables

/-!
# Validators that differ in errors only

Two validators with the same types may find different errors in a type that cannot be compiled, and
be the same otherwise.  Then all that they come to agree on stays the same: they compile the same
types in the same order, to the same checks (`Store.UpTo.run`), and messages come to the same unless
they come to errors in which the validators differ (`CheckTable.upTo_evaluate`).  So the answers to
any calls differ in these errors only (`Validator.UpTo.answerAll`), and if the one validator is
refused when it is made, so is the other (`Validator.UpTo.preloadAll`).

Which errors may stand for which is a parameter throughout, of which nothing is needed but that it
is reflexive.
-/

namespace MessageConstraints

/-! ## Results -/

/-- Two results agree up to errors: they are the same, or errors that are related. -/
inductive AgreeUpTo {ε α : Type} (R : ε → ε → Prop) : Except ε α → Except ε α → Prop
  | ok (value : α) : AgreeUpTo R (.ok value) (.ok value)
  | error {cause cause' : ε} : R cause cause' → AgreeUpTo R (.error cause) (.error cause')

namespace AgreeUpTo

variable {ε α β : Type} {R : ε → ε → Prop} {result result' : Except ε α}

theorem refl (hrefl : ∀ cause, R cause cause) (result : Except ε α) :
    AgreeUpTo R result result := by
  cases result with
  | ok value => exact .ok value
  | error cause => exact .error (hrefl cause)

theorem eq (h : AgreeUpTo R result result')
    (heq : ∀ cause cause', R cause cause' → cause = cause') : result = result' := by
  cases h with
  | ok value => rfl
  | error hcause => rw [heq _ _ hcause]

theorem eq_of_rel {first second : Option (Except ε α)}
    (h : Option.Rel (AgreeUpTo Eq) first second) : first = second := by
  cases h with
  | none => rfl
  | some hagree => rw [hagree.eq fun _ _ => id]

theorem bind {next next' : α → Except ε β} (h : AgreeUpTo R result result')
    (hnext : ∀ value, AgreeUpTo R (next value) (next' value)) :
    AgreeUpTo R (result >>= next) (result' >>= next') := by
  cases h with
  | ok value => exact hnext value
  | error hcause => exact .error hcause

theorem map (h : AgreeUpTo R result result') (f : α → β) :
    AgreeUpTo R (result.map f) (result'.map f) := by
  cases h with
  | ok value => exact .ok (f value)
  | error hcause => exact .error hcause

end AgreeUpTo

variable {R : CompileError → CompileError → Prop}

/-- Two failures are the same, or types do not compile for related reasons. -/
inductive Failure.UpTo (R : CompileError → CompileError → Prop) : Failure → Failure → Prop
  | refl (cause : Failure) : Failure.UpTo R cause cause
  | compilation {cause cause' : CompileError} : R cause cause' →
      Failure.UpTo R (.compilation cause) (.compilation cause')

/-! ## Outcomes -/

namespace Outcome

/-- Two outcomes are the same up to the errors of types that do not compile. -/
inductive UpTo (R : CompileError → CompileError → Prop) : Outcome → Outcome → Prop
  | refl (outcome : Outcome) : UpTo R outcome outcome
  | failure {cause cause' : Failure} : cause.UpTo R cause' →
      UpTo R (.failure cause) (.failure cause')

theorem UpTo.followedBy {mode : Reporting} {first second first' second' : Outcome}
    (h : first.UpTo R second) (h' : first'.UpTo R second') :
    (first.followedBy mode first').UpTo R (second.followedBy mode second') := by
  cases h with
  | failure hcause => exact .failure hcause
  | refl =>
    cases first with
    | pass => exact h'
    | failure cause => exact .refl _
    | violations vs =>
      cases mode with
      | failFast => exact .refl _
      | collect =>
        cases h' with
        | refl => exact .refl _
        | failure hcause => exact .failure hcause

theorem upTo_congruence (R : CompileError → CompileError → Prop) : Congruence (UpTo R) where
  refl := .refl
  map f _ _ h := by
    cases h with
    | refl => exact .refl _
    | failure hcause => exact .failure hcause
  followedBy _ _ _ _ _ h h' := h.followedBy h'
  compose field steps _ _ h := by
    cases h with
    | refl => exact .refl _
    | failure hcause => exact .failure hcause

theorem UpTo.found {first second : Outcome} (h : first.UpTo R second) :
    AgreeUpTo (Failure.UpTo R) first.found second.found := by
  cases h with
  | refl => exact .refl .refl _
  | failure hcause => exact .error hcause

theorem UpTo.eq {first second : Outcome} (h : first.UpTo R second)
    (heq : ∀ cause cause', R cause cause' → cause = cause') : first = second := by
  cases h with
  | refl => rfl
  | failure hcause =>
    cases hcause with
    | refl => rfl
    | compilation hcause => rw [heq _ _ hcause]

end Outcome

namespace CheckTable

variable {table table' : CheckTable} {mode : Reporting}

theorem upTo_judge {typeName : String} (htable : AgreeUpTo R (table typeName) (table' typeName))
    {visit visit' : String → Message → Outcome}
    (hvisit : ∀ nested inner, (visit nested inner).UpTo R (visit' nested inner))
    (message : Message) :
    (table.judge mode visit typeName message).UpTo R
      (table'.judge mode visit' typeName message) := by
  generalize hresult : table typeName = result at htable
  generalize hresult' : table' typeName = result' at htable
  cases htable with
  | ok checks =>
    exact (Outcome.upTo_congruence R).judge (hresult.trans hresult'.symm) hvisit message
  | error hcause =>
    simp only [judge, hresult, hresult']
    exact .failure (.compilation hcause)

/-- **Messages come to the same, up to the errors in which the tables differ.** -/
theorem upTo_evaluate (htable : ∀ name, AgreeUpTo R (table name) (table' name))
    (limit levels : Nat) (typeName : String) (message : Message) :
    (table.evaluate mode limit levels typeName message).UpTo R
      (table'.evaluate mode limit levels typeName message) := by
  induction levels generalizing typeName message with
  | zero => exact upTo_judge (htable typeName) (fun _ _ => .refl _) message
  | succ below ih => exact upTo_judge (htable typeName) ih message

end CheckTable

/-! ## Tables -/

namespace NameMap

variable {α β : Type} {S : α → β → Prop} {table : NameMap α} {table' : NameMap β}

/-- Two tables have the same names in the same order, with related values. -/
def Related (S : α → β → Prop) (table : NameMap α) (table' : NameMap β) : Prop :=
  List.Forall₂ (fun entry entry' => entry.1 = entry'.1 ∧ S entry.2 entry'.2) table.entries
    table'.entries

theorem Related.find? (h : table.Related S table') (name : String) :
    Option.Rel S (table.find? name) (table'.find? name) := by
  obtain ⟨entries⟩ := table
  obtain ⟨entries'⟩ := table'
  replace h : List.Forall₂ _ entries entries' := h
  induction h with
  | nil => exact .none
  | @cons entry entry' _ _ hfirst _ ih =>
    obtain ⟨key, value⟩ := entry
    obtain ⟨key', value'⟩ := entry'
    obtain ⟨rfl, hvalue⟩ := hfirst
    rw [find?_cons, find?_cons]
    split
    · exact .some hvalue
    · exact ih

theorem Related.contains_eq (h : table.Related S table') (name : String) :
    table.contains name = table'.contains name := by
  have hfind := h.find? name
  unfold contains
  generalize table.find? name = value at hfind
  generalize table'.find? name = value' at hfind
  cases hfind <;> rfl

theorem Related.insert (h : table.Related S table') (name : String) {value : α} {value' : β}
    (hvalue : S value value') :
    (table.insert name value).Related S (table'.insert name value') := by
  obtain ⟨entries⟩ := table
  obtain ⟨entries'⟩ := table'
  replace h : List.Forall₂ _ entries entries' := h
  show List.Forall₂ _ (insertIn name value entries) (insertIn name value' entries')
  induction h with
  | nil => exact .cons ⟨rfl, hvalue⟩ .nil
  | @cons entry entry' _ _ hfirst hrest ih =>
    obtain ⟨key, old⟩ := entry
    obtain ⟨key', old'⟩ := entry'
    obtain ⟨rfl, hold⟩ := hfirst
    unfold insertIn
    split
    · exact .cons ⟨rfl, hvalue⟩ hrest
    · exact .cons ⟨rfl, hold⟩ ih

theorem Related.sorted (h : table.Related S table') :
    List.Forall₂ (fun entry entry' => entry.1 = entry'.1 ∧ S entry.2 entry'.2) table.sorted
      table'.sorted :=
  forall₂_mergeSort (fun _ _ _ _ hab hab' => by rw [hab.1, hab'.1]) h

end NameMap

/-- What is found first in lists that correspond, is related if it is in all that corresponds. -/
theorem rel_findSome? {α β γ δ : Type} {S : α → β → Prop} {T : γ → δ → Prop} {f : α → Option γ}
    {g : β → Option δ} {things : List α} {things' : List β} (h : List.Forall₂ S things things')
    (hthings : ∀ a b, S a b → Option.Rel T (f a) (g b)) :
    Option.Rel T (things.findSome? f) (things'.findSome? g) := by
  induction h with
  | nil => exact .none
  | @cons a b _ _ hfirst _ ih =>
    have hfound := hthings a b hfirst
    rw [List.findSome?_cons, List.findSome?_cons]
    generalize f a = found at hfound
    generalize g b = found' at hfound
    cases hfound with
    | none => exact ih
    | some hrelated => exact .some hrelated

theorem rel_orElse {α β : Type} {S : α → β → Prop} {first second : Option α}
    {first' second' : Option β} (h : Option.Rel S first first') (h' : Option.Rel S second second') :
    Option.Rel S (first <|> second) (first' <|> second') := by
  cases h with
  | none => exact h'
  | some hrelated => exact .some hrelated

/-! ## Stores -/

/-- A type has compiled to the same checks, up to the error that may have ended it. -/
structure Compiled.UpTo (R : CompileError → CompileError → Prop) (first second : Compiled) :
    Prop where
  checks_eq : first.checks = second.checks
  error? : Option.Rel R first.error? second.error?

theorem Compiled.UpTo.refl (hrefl : ∀ cause, R cause cause) (compiled : Compiled) :
    compiled.UpTo R compiled where
  checks_eq := rfl
  error? := by
    cases compiled.error? with
    | none => exact .none
    | some cause => exact .some (hrefl cause)

theorem Compiled.UpTo.result {first second : Compiled} (h : first.UpTo R second) :
    AgreeUpTo R first.result second.result := by
  obtain ⟨hchecks, herror⟩ := h
  unfold Compiled.result
  generalize first.error? = error at herror
  generalize second.error? = error' at herror
  cases herror with
  | none => rw [hchecks]; exact .ok _
  | some hcause => exact .error hcause

/-- Two sources have the same types, and the same schemas of them up to errors. -/
structure Sources.UpTo (R : CompileError → CompileError → Prop) (first second : Sources) :
    Prop where
  catalog_eq : first.catalog = second.catalog
  schema? : ∀ ref, Option.Rel (AgreeUpTo R) (first.schema? ref) (second.schema? ref)

/-- Tasks are the same, up to what there is to announce. -/
inductive Task.Alike : Task → Task → Prop
  | enter (ref : TypeRef) : Task.Alike (.enter ref) (.enter ref)
  | announce (event event' : Event) : Task.Alike (.announce event) (.announce event')

namespace Store

/-- Two stores know the same schemas, and have compiled the same types in the same order, up to
errors. -/
structure UpTo (R : CompileError → CompileError → Prop) (first second : Store) : Prop where
  schemas_eq : first.schemas = second.schemas
  compiled : first.compiled.Related (Compiled.UpTo R) second.compiled

namespace UpTo

variable {sources sources' : Sources} {store store' : Store}

theorem record (h : store.UpTo R store') (event event' : Event) :
    (store.record event).UpTo R (store'.record event') :=
  ⟨h.schemas_eq, h.compiled⟩

theorem checks (h : store.UpTo R store') (hrefl : ∀ cause, R cause cause) (name : String) :
    AgreeUpTo R (store.checks name) (store'.checks name) := by
  have hfind := h.compiled.find? name
  unfold Store.checks
  generalize store.compiled.find? name = compiled at hfind
  generalize store'.compiled.find? name = compiled' at hfind
  cases hfind with
  | none => exact .error (hrefl _)
  | some hcompiled => exact hcompiled.result

theorem awaits_eq (hsources : sources.UpTo R sources') (h : store.UpTo R store') (ref : TypeRef) :
    store.awaits sources ref = store'.awaits sources' ref := by
  rw [awaits, awaits, hsources.catalog_eq, h.compiled.contains_eq]

section

variable (hrefl : ∀ cause, R cause cause) (hsources : sources.UpTo R sources')

include hrefl hsources

/-- Resolving a schema keeps the stores alike, and gives the same up to errors. -/
theorem resolve (h : store.UpTo R store') (ref : TypeRef) :
    (store.resolve sources ref).1.UpTo R (store'.resolve sources' ref).1 ∧
      AgreeUpTo R (store.resolve sources ref).2 (store'.resolve sources' ref).2 := by
  have hschema := hsources.schema? ref
  unfold Store.resolve
  rw [← h.schemas_eq]
  cases store.schemas.find? ref.name with
  | some placed => exact ⟨h, .ok placed⟩
  | none =>
    simp only
    generalize sources.schema? ref = schema at hschema
    generalize sources'.schema? ref = schema' at hschema
    cases hschema with
    | none => exact ⟨h, .error (hrefl _)⟩
    | some hresolved =>
      cases hresolved with
      | error hcause => exact ⟨h, .error hcause⟩
      | ok schema => exact ⟨⟨rfl, h.compiled⟩, .ok _⟩

omit hsources in
/-- What a type compiles to is the same up to errors, and leads to the same types. -/
theorem compileSchema {placed placed' : Except CompileError PlacedSchema}
    (h : AgreeUpTo R placed placed') :
    (compileSchema placed).1.UpTo R (Store.compileSchema placed').1 ∧
      (Store.compileSchema placed).2 = (Store.compileSchema placed').2 := by
  cases h with
  | ok placed => exact ⟨.refl hrefl _, rfl⟩
  | error hcause => exact ⟨⟨rfl, .some hcause⟩, rfl⟩

/-- **One step of the walk** keeps the stores alike, and leads to the same tasks. -/
theorem enter (h : store.UpTo R store') (ref : TypeRef) :
    (store.enter sources ref).1.UpTo R (store'.enter sources' ref).1 ∧
      List.Forall₂ Task.Alike (store.enter sources ref).2 (store'.enter sources' ref).2 := by
  obtain ⟨hstore, hschema⟩ := h.resolve hrefl hsources ref
  obtain ⟨hcompiled, hnested⟩ := compileSchema hrefl hschema
  refine ⟨⟨hstore.schemas_eq, hstore.compiled.insert ref.name hcompiled⟩, ?_⟩
  unfold Store.enter
  simp only [hnested]
  refine List.rel_append ?_ (.cons (.announce _ _) .nil)
  exact List.forall₂_map_left_iff.mpr
    (List.forall₂_map_right_iff.mpr (List.forall₂_same.mpr fun ref _ => .enter ref))

/-- **The walk compiles the same types to the same checks**, up to errors. -/
theorem run {tasks tasks' : List Task} (h : store.UpTo R store')
    (htasks : List.Forall₂ Task.Alike tasks tasks') :
    (store.run sources tasks).UpTo R (store'.run sources' tasks') := by
  induction store, tasks using Store.run.induct sources generalizing store' tasks' with
  | case1 store =>
    cases htasks
    rwa [Store.run, Store.run]
  | case2 store event rest ih =>
    cases htasks with
    | cons hfirst hrest =>
      cases hfirst
      rw [Store.run, Store.run]
      exact ih (h.record _ _) hrest
  | case3 store ref rest hawaits ih =>
    cases htasks with
    | cons hfirst hrest =>
      cases hfirst
      obtain ⟨hstore, hnew⟩ := h.enter hrefl hsources ref
      rw [Store.run, Store.run, dif_pos hawaits,
        dif_pos ((h.awaits_eq hsources ref).symm.trans hawaits)]
      exact ih hstore (List.rel_append hnew hrest)
  | case4 store ref rest hnot ih =>
    cases htasks with
    | cons hfirst hrest =>
      cases hfirst
      rw [Store.run, Store.run, dif_neg hnot, dif_neg (h.awaits_eq hsources ref ▸ hnot)]
      exact ih h hrest

theorem compile (h : store.UpTo R store') (ref : TypeRef) :
    (store.compile sources ref).UpTo R (store'.compile sources' ref) :=
  h.run hrefl hsources (.cons (.enter ref) .nil)

end

end UpTo

end Store

/-! ## Validators -/

namespace Validator

/-- Two validators are configured alike and know the same, up to errors. -/
structure UpTo (R : CompileError → CompileError → Prop) (first second : Validator) : Prop where
  sources : first.sources.UpTo R second.sources
  isLazy_eq : first.isLazy = second.isLazy
  manner_eq : first.manner = second.manner
  store : first.store.UpTo R second.store

/-- Two answers are the same, up to errors. -/
inductive Answer.UpTo (R : CompileError → CompileError → Prop) : Answer → Answer → Prop
  | outcome {first second : Outcome} : first.UpTo R second →
      Answer.UpTo R (.outcome first) (.outcome second)
  | violations {first second : Except Failure (List Violation)} :
      AgreeUpTo (Failure.UpTo R) first second →
      Answer.UpTo R (.violations first) (.violations second)
  | schema {first second : Except CompileError MessageSchema} : AgreeUpTo R first second →
      Answer.UpTo R (.schema first) (.schema second)

theorem Answer.UpTo.eq {first second : Answer} (h : first.UpTo R second)
    (heq : ∀ cause cause', R cause cause' → cause = cause') : first = second := by
  cases h with
  | outcome h => rw [h.eq heq]
  | schema h => rw [h.eq heq]
  | violations h =>
    refine congrArg Answer.violations (h.eq fun cause cause' hcause => ?_)
    cases hcause with
    | refl => rfl
    | compilation hcause => rw [heq _ _ hcause]

namespace UpTo

variable {first second : Validator} (hrefl : ∀ cause, R cause cause)

include hrefl

/-- Compiling a type beforehand keeps validators alike, and gives related errors or none. -/
theorem preload (h : first.UpTo R second) (ref : TypeRef) :
    (first.preload ref).1.UpTo R (second.preload ref).1 ∧
      Option.Rel R (first.preload ref).2 (second.preload ref).2 := by
  have hstore := h.store.compile hrefl h.sources ref
  refine ⟨⟨h.sources, h.isLazy_eq, h.manner_eq, hstore⟩, rel_orElse ?_ ?_⟩
  · exact rel_bind (hstore.compiled.find? ref.name) fun _ _ hcompiled => hcompiled.error?
  · refine rel_findSome? (List.rel_filter ?_ hstore.compiled.sorted) fun _ _ hentry =>
      hentry.2.error?
    intro entry entry' hentry
    simp only [hentry.1, h.store.compiled.contains_eq]

theorem preloadAll (h : first.UpTo R second) (refs : List TypeRef) :
    (first.preloadAll refs).1.UpTo R (second.preloadAll refs).1 ∧
      Option.Rel R (first.preloadAll refs).2 (second.preloadAll refs).2 := by
  induction refs generalizing first second with
  | nil => exact ⟨h, .none⟩
  | cons ref rest ih =>
    obtain ⟨hfirst, herror⟩ := h.preload hrefl ref
    obtain ⟨hrest, herrors⟩ := ih hfirst
    exact ⟨hrest, rel_orElse herror herrors⟩

theorem load (h : first.UpTo R second) (ref : TypeRef) :
    (first.load ref).UpTo R (second.load ref) := by
  unfold Validator.load
  by_cases hlazy : first.isLazy
  · rw [if_pos hlazy, if_pos (h.isLazy_eq ▸ hlazy)]
    exact ⟨h.sources, h.isLazy_eq, h.manner_eq, h.store.compile hrefl h.sources ref⟩
  · rw [if_neg hlazy, if_neg (h.isLazy_eq ▸ hlazy)]
    exact h

theorem validate (h : first.UpTo R second) (pool : Nat) (message : Message)
    (options : List CallOption) :
    (first.validate pool message options).1.UpTo R (second.validate pool message options).1 ∧
      (first.validate pool message options).2.UpTo R
        (second.validate pool message options).2 := by
  have hannounced : UpTo R
      { first with store := first.store.record (.validating message.typeName) }
      { second with store := second.store.record (.validating message.typeName) } :=
    ⟨h.sources, h.isLazy_eq, h.manner_eq, h.store.record _ _⟩
  have hloaded := hannounced.load hrefl ⟨pool, message.typeName⟩
  refine ⟨hloaded, ?_⟩
  unfold Validator.validate
  simp only [hloaded.manner_eq]
  exact CheckTable.upTo_evaluate (hloaded.store.checks hrefl) _ _ _ _

/-- **A call keeps validators alike and gets the same answer from them**, up to errors. -/
theorem answer (h : first.UpTo R second) (request : Request) :
    (first.answer request).1.UpTo R (second.answer request).1 ∧
      (first.answer request).2.UpTo R (second.answer request).2 := by
  cases request with
  | validate pool message options =>
    obtain ⟨hafter, houtcome⟩ := h.validate hrefl pool message options
    exact ⟨hafter, .outcome houtcome⟩
  | violations pool message =>
    obtain ⟨hafter, houtcome⟩ := h.validate hrefl pool message []
    exact ⟨hafter, .violations houtcome.found⟩
  | schema ref =>
    obtain ⟨hstore, hplaced⟩ := h.store.resolve hrefl h.sources ref
    exact ⟨⟨h.sources, h.isLazy_eq, h.manner_eq, hstore⟩, .schema (hplaced.map _)⟩

/-- **Any number of calls gets the same answers from validators that are alike**, up to errors. -/
theorem answerAll (h : first.UpTo R second) (requests : List Request) :
    (first.answerAll requests).1.UpTo R (second.answerAll requests).1 ∧
      List.Forall₂ (Answer.UpTo R) (first.answerAll requests).2
        (second.answerAll requests).2 := by
  induction requests generalizing first second with
  | nil => exact ⟨h, .nil⟩
  | cons request rest ih =>
    obtain ⟨hfirst, hanswer⟩ := h.answer hrefl request
    obtain ⟨hrest, hanswers⟩ := ih hfirst
    exact ⟨hrest, .cons hanswer hanswers⟩

end UpTo

end Validator

end MessageConstraints
