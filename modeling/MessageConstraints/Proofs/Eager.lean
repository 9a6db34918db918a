import Mathlib.Logic.Relation
import Mathlib.Tactic.Common
import MessageConstraints.Proofs.Depth
import MessageConstraints.Proofs.Linked
import MessageConstraints.Proofs.Options

/-!
# Compiling beforehand

A validator that is made with a list of types to compile beforehand is refused if any of them, or
any type that compiling them leads to, does not compile.  The types that it leads to are those of
the nested messages in fields that ask for recursion, as far as the types on the way compile
(`Sources.Reaches`).  A type that does not compile still has some of its nested types compiled, but
then the validator is refused in any case (`Validator.ofSettings_eq_none_iff`).

A validator that is not refused has compiled them all, and no call ever loses that, so that their
messages never fail because something does not compile.
-/

namespace MessageConstraints

/-! ## Types that compiling leads to -/

namespace Sources

/-- A field of a type asks for recursion into messages of another type. -/
def Nests (sources : Sources) (pool : Nat) (name nested : String) : Prop :=
  ∃ schema field, sources.schemaAt pool name = .ok schema ∧ field ∈ schema.fields ∧
    field.constraints.get? .recurse = some (.recurse true) ∧ field.messageType? = some nested

/-- The types that compiling some types leads to: these types, and, for each of them that compiles,
the types of the nested messages into which it asks for recursion. -/
inductive Reaches (sources : Sources) (pool : Nat) (listed : String → Prop) : String → Prop
  | listed {name : String} : listed name → Reaches sources pool listed name
  | nested {name nested : String} {checks : List Check} :
      Reaches sources pool listed name → sources.checksAt pool name = .ok checks →
      sources.Nests pool name nested → Reaches sources pool listed nested

/-- Compiling a type leads to another one, which a check of the former is for. -/
def LeadsTo (sources : Sources) (pool : Nat) (name nested : String) : Prop :=
  nested ∈ (sources.compiledAt pool name).nested

/-- Compiling some types leads to a type, in any number of steps. -/
def LedTo (sources : Sources) (pool : Nat) (listed : String → Prop) (name : String) : Prop :=
  ∃ first, listed first ∧ Relation.ReflTransGen (sources.LeadsTo pool) first name

variable {sources : Sources} {pool : Nat} {name nested : String} {listed : String → Prop}

/-- Compiling a type leads only to types into which it asks for recursion. -/
theorem LeadsTo.nests (h : sources.LeadsTo pool name nested) :
    sources.Nests pool name nested := by
  unfold LeadsTo compiledAt at h
  cases hschema : sources.schemaAt pool name with
  | error cause =>
    rw [hschema] at h
    cases h
  | ok schema =>
    rw [hschema, Compiled.nested, List.mem_filterMap] at h
    obtain ⟨check, hmem, hnested⟩ := h
    obtain ⟨site, hsite, hcompile⟩ := Compiled.exists_site_of_mem_checks hmem
    cases check with
    | recurse field nestedType =>
      obtain rfl : nestedType = nested := Option.some.inj hnested
      obtain ⟨fieldSchema, rfl, htype, -⟩ := Site.compile_eq_recurse_iff.mp hcompile
      obtain ⟨-, hfield, hget⟩ := MessageSchema.mem_sites.mp hsite
      exact ⟨schema, fieldSchema, hschema, hfield, hget, htype⟩
    | _ => cases hnested

/-- Compiling a type that compiles leads to all types into which it asks for recursion. -/
theorem leadsTo_iff {checks : List Check} (hchecks : sources.checksAt pool name = .ok checks) :
    sources.LeadsTo pool name nested ↔ sources.Nests pool name nested := by
  refine ⟨LeadsTo.nests, ?_⟩
  rintro ⟨schema, field, hschema, hfield, hget, htype⟩
  obtain ⟨other, hother, herror, -⟩ := exists_schemaAt hchecks
  obtain rfl : schema = other := Except.ok.inj (hschema.symm.trans hother)
  have hsite : Site.field field (.recurse true) ∈ schema.sites :=
    MessageSchema.mem_sites.mpr ⟨rfl, hfield, hget⟩
  have hcompile : (Site.field field (.recurse true)).compile schema =
      .ok (some (.recurse field.field nested)) :=
    Site.compile_eq_recurse_iff.mpr ⟨field, rfl, htype, rfl⟩
  rw [LeadsTo, compiledAt, hschema, Compiled.nested, List.mem_filterMap]
  exact ⟨_, (Compiled.mem_checks_ofSites herror).mpr ⟨_, hsite, hcompile⟩, rfl⟩

/-- In a linked pool a type that is declared asks for recursion into declared types only. -/
theorem Nests.declares (h : sources.Nests pool name nested)
    (hlinked : sources.catalog.Linked pool) : sources.Declares pool nested := by
  obtain ⟨schema, field, hschema, hfield, -, htype⟩ := h
  have hmem : field.field ∈ schema.type.fields := by
    rw [← fields_schemaAt hschema]
    exact List.mem_map_of_mem hfield
  exact hlinked.nested_declared name schema.type (type_schemaAt hschema) field.field hmem nested
    htype

/-- Compiling declared types leads to declared types. -/
theorem LedTo.declares (h : sources.LedTo pool listed name)
    (hlinked : sources.catalog.Linked pool)
    (hlisted : ∀ name, listed name → sources.Declares pool name) :
    sources.Declares pool name := by
  obtain ⟨first, hfirst, hleads⟩ := h
  cases hleads with
  | refl => exact hlisted name hfirst
  | tail _ hlast => exact hlast.nests.declares hlinked

/-- Compiling leads to the types that are reached. -/
theorem Reaches.ledTo (h : sources.Reaches pool listed name) :
    sources.LedTo pool listed name := by
  induction h with
  | @listed name hname => exact ⟨name, hname, .refl⟩
  | nested _ hok hnests ih =>
    obtain ⟨first, hfirst, hleads⟩ := ih
    exact ⟨first, hfirst, hleads.tail ((leadsTo_iff hok).mpr hnests)⟩

end Sources

/-! ## What the walk compiles -/

namespace Store

variable {sources : Sources} {pool : Nat}

/-- Whatever has been compiled is admissible. -/
def AllCompile (store : Store) : Prop :=
  ∀ name compiled, store.compiled.find? name = some compiled → compiled.error? = none

/-- Nothing has been compiled but types of a set. -/
def Within (known : String → Prop) (store : Store) : Prop :=
  ∀ name, store.compiled.contains name = true → known name

theorem within_empty (known : String → Prop) : Within known empty := by
  intro name hname
  cases hname

theorem Within.enter {known : String → Prop} {store : Store} {ref : TypeRef}
    (h : store.Within known) (href : known ref.name) :
    (store.enter sources ref).1.Within known := by
  intro name hname
  rw [contains_enter, Bool.or_eq_true, decide_eq_true_iff] at hname
  rcases hname with rfl | hbefore
  · exact href
  · exact h name hbefore

/-- The walk stays inside every set of types that is closed under nesting. -/
theorem Faithful.run_within {known : String → Prop}
    (hknown : ∀ name nested, known name → sources.LeadsTo pool name nested → known nested)
    {store : Store} {tasks : List Task} (hfaithful : store.Faithful sources pool)
    (hstore : store.Within known)
    (htasks : ∀ ref, .enter ref ∈ tasks → ref.pool = pool ∧ known ref.name) :
    (store.run sources tasks).Within known := by
  induction store, tasks using Store.run.induct sources with
  | case1 store => rwa [Store.run]
  | case2 store event rest ih =>
    rw [Store.run]
    refine ih ⟨hfaithful.schema_eq, hfaithful.compiled_eq⟩ hstore fun ref href => ?_
    exact htasks ref (List.mem_cons_of_mem _ href)
  | case3 store ref rest hawaits ih =>
    obtain ⟨rfl, href⟩ := htasks ref List.mem_cons_self
    rw [Store.run, dif_pos hawaits]
    refine ih (hfaithful.enter (awaits_iff.mp hawaits).1) (hstore.enter href) fun other hother => ?_
    rcases List.mem_append.mp hother with hnew | hrest
    · obtain ⟨nested, hnested, rfl⟩ := hfaithful.mem_enter.mp hnew
      exact ⟨rfl, hknown ref.name nested href hnested⟩
    · exact htasks other (List.mem_cons_of_mem _ hrest)
  | case4 store ref rest hnot ih =>
    rw [Store.run, dif_neg hnot]
    exact ih hfaithful hstore fun other hother => htasks other (List.mem_cons_of_mem _ hother)

/-- No type is compiled under two entries. -/
theorem invariant_nodup (sources : Sources) :
    Invariant sources fun store => store.compiled.names.Nodup where
  record _ _ hstore := hstore
  resolve store ref hstore := by rwa [compiled_resolve]
  enter store ref _ hstore := by
    rw [compiled_enter]
    exact NameMap.nodup_names_insert hstore _ _

/-- What a faithful store has compiled for a declared type that it covers. -/
theorem Faithful.find?_of_covers {store : Store} (h : store.Faithful sources pool) {name : String}
    (hcovers : store.Covers sources pool name) (hdeclares : sources.Declares pool name) :
    store.compiled.find? name = some (sources.compiledAt pool name) := by
  obtain ⟨compiled, hfind⟩ := Option.isSome_iff_exists.mp (hcovers hdeclares)
  rw [hfind, (h.compiled_eq hfind).2]

end Store

/-! ## Preloading -/

theorem Outcome.found_eq_error_iff {outcome : Outcome} {cause : Failure} :
    outcome.found = .error cause ↔ outcome = .failure cause := by
  cases outcome <;> simp [found]

namespace Validator

variable {validator : Validator}

/-- Preloading a type gives no error exactly if all is admissible afterwards. -/
theorem preload_eq_none_iff (hnodup : validator.store.compiled.names.Nodup)
    (hbefore : validator.store.AllCompile) (ref : TypeRef) :
    (validator.preload ref).2 = none ↔ (validator.preload ref).1.store.AllCompile := by
  have hkeeps : (validator.preload ref).1.store.Extends validator.store :=
    (Store.invariant_extends validator.sources validator.store).run fun _ _ h => h
  have hafter : (validator.preload ref).1.store.compiled.names.Nodup :=
    (Store.invariant_nodup validator.sources).run hnodup
  have hsplit : (validator.preload ref).2 = none ↔
      ((validator.preload ref).1.store.compiled.find? ref.name).bind Compiled.error? = none ∧
      ∀ entry ∈ (validator.preload ref).1.store.compiled.entries,
        validator.store.compiled.contains entry.1 = false → entry.2.error? = none := by
    show (_ <|> _) = none ↔ _
    simp [Validator.preload, NameMap.sorted, List.mem_mergeSort, List.findSome?_eq_none_iff]
  rw [hsplit]
  constructor
  · rintro ⟨-, hfresh⟩ name compiled hfind
    cases hknown : validator.store.compiled.contains name with
    | false => exact hfresh (name, compiled) (NameMap.mem_entries_of_find? hfind) hknown
    | true =>
      obtain ⟨earlier, hearlier⟩ := Option.isSome_iff_exists.mp hknown
      obtain rfl : compiled = earlier :=
        Option.some.inj (hfind.symm.trans (hkeeps name earlier hearlier))
      exact hbefore name compiled hearlier
  · intro hall
    refine ⟨?_, fun entry hentry _ => ?_⟩
    · cases hfind : (validator.preload ref).1.store.compiled.find? ref.name with
      | none => rfl
      | some compiled => exact hall ref.name compiled hfind
    · exact hall entry.1 entry.2 (NameMap.find?_eq_some_of_mem hafter hentry)

/-- Preloading types gives no error exactly if all is admissible afterwards. -/
theorem preloadAll_eq_none_iff (hnodup : validator.store.compiled.names.Nodup)
    (hbefore : validator.store.AllCompile) (refs : List TypeRef) :
    (validator.preloadAll refs).2 = none ↔ (validator.preloadAll refs).1.store.AllCompile := by
  induction refs generalizing validator with
  | nil => simp [preloadAll, hbefore]
  | cons ref rest ih =>
    have hfirst := preload_eq_none_iff hnodup hbefore ref
    have hnodup' : (validator.preload ref).1.store.compiled.names.Nodup :=
      (Store.invariant_nodup validator.sources).run hnodup
    have hkeeps : (validator.preloadAll (ref :: rest)).1.store.Extends
        (validator.preload ref).1.store :=
      (Store.invariant_extends (validator.preload ref).1.sources _).preloadAll (fun _ _ h => h) rest
    have hor : (validator.preloadAll (ref :: rest)).2 = none ↔
        (validator.preload ref).2 = none ∧
          ((validator.preload ref).1.preloadAll rest).2 = none := by
      show ((validator.preload ref).2 <|> ((validator.preload ref).1.preloadAll rest).2) = none ↔ _
      cases (validator.preload ref).2 <;> simp
    rw [hor, hfirst]
    constructor
    · rintro ⟨hall, hrest⟩
      exact (ih hnodup' hall).mp hrest
    · intro hall
      have hallFirst : (validator.preload ref).1.store.AllCompile :=
        fun name compiled hfind => hall name compiled (hkeeps name compiled hfind)
      exact ⟨hallFirst, (ih hnodup' hallFirst).mpr hall⟩

theorem extends_preloadAll (refs : List TypeRef) :
    (validator.preloadAll refs).1.store.Extends validator.store :=
  (Store.invariant_extends validator.sources validator.store).preloadAll (fun _ _ h => h) refs

/-- A settled validator has compiled what compiling a type leads to that it has compiled. -/
theorem Settled.covers_of_leadsTo {pool : Nat} (h : validator.Settled pool) {name nested : String}
    (hcovers : validator.store.Covers validator.sources pool name)
    (hleads : validator.sources.LeadsTo pool name nested) :
    validator.store.Covers validator.sources pool nested := by
  obtain ⟨schema, field, hschema, -⟩ := hleads.nests
  have hfind := h.1.find?_of_covers hcovers (Sources.declares_of_schemaAt hschema)
  exact (h.2 name _ hfind nested hleads).resolve_right List.not_mem_nil

/-- A settled validator has compiled all that compiling some types leads to that it has compiled. -/
theorem Settled.covers_of_ledTo {pool : Nat} {listed : String → Prop} (h : validator.Settled pool)
    (hlisted : ∀ name, listed name → validator.store.Covers validator.sources pool name)
    {name : String} (hled : validator.sources.LedTo pool listed name) :
    validator.store.Covers validator.sources pool name := by
  obtain ⟨first, hfirst, hleads⟩ := hled
  induction hleads with
  | refl => exact hlisted first hfirst
  | tail _ hlast ih => exact h.covers_of_leadsTo ih hlast

/-- Preloading covers the types that it is given. -/
theorem Settled.covers_preloadAll {pool : Nat} (h : validator.Settled pool) {names : List String}
    {name : String} (hname : name ∈ names) :
    (validator.preloadAll (names.map (TypeRef.mk pool))).1.store.Covers validator.sources pool
      name := by
  induction names generalizing validator with
  | nil => cases hname
  | cons first rest ih =>
    rcases List.mem_cons.mp hname with rfl | hrest
    · have hfirst : (validator.preload ⟨pool, name⟩).1.store.Covers validator.sources pool name :=
        (h.reached name).covers name List.mem_cons_self
      exact hfirst.mono (extends_preloadAll _)
    · exact ih (h.compile first).settled hrest

/-- Preloading stays inside every set of types that is closed under nesting. -/
theorem Settled.preloadAll_within {pool : Nat} {known : String → Prop}
    (hknown : ∀ name nested, known name → validator.sources.LeadsTo pool name nested →
      known nested)
    (h : validator.Settled pool) (hstore : validator.store.Within known) {names : List String}
    (hnames : ∀ name ∈ names, known name) :
    (validator.preloadAll (names.map (TypeRef.mk pool))).1.store.Within known := by
  induction names generalizing validator with
  | nil => exact hstore
  | cons first rest ih =>
    have hwithin : (validator.preload ⟨pool, first⟩).1.store.Within known := by
      refine h.1.run_within hknown hstore fun ref href => ?_
      obtain rfl : ref = ⟨pool, first⟩ := by simpa using href
      exact ⟨rfl, hnames first List.mem_cons_self⟩
    exact ih hknown (h.compile first).settled hwithin fun name hname =>
      hnames name (List.mem_cons_of_mem first hname)

end Validator

/-! ## Validators with types to compile beforehand -/

/-- Some options list a type to compile beforehand. -/
def ValidatorOption.Lists (options : List ValidatorOption) (name : String) : Prop :=
  ∃ names, .preload names ∈ options ∧ name ∈ names

namespace Settings

/-- The types that are compiled beforehand are those that any of the options lists. -/
theorem mem_preloaded_iff {options : List ValidatorOption} {name : String} :
    name ∈ (ofOptions options).preloaded ↔ ValidatorOption.Lists options name := by
  rw [ofOptions, foldl_apply]
  show name ∈ options.flatMap ValidatorOption.listed ↔ _
  rw [List.mem_flatMap]
  constructor
  · rintro ⟨option, hoption, hname⟩
    cases option with
    | preload names => exact ⟨names, hoption, hname⟩
    | _ => cases hname
  · rintro ⟨names, hoption, hname⟩
    exact ⟨_, hoption, hname⟩

end Settings

namespace Validator

/-- Where types compile and are compiled, and those that they are nested with as well, no message
of theirs fails because something does not compile. -/
theorem report_ne_compilation {sources : Sources} {validator : Validator} {pool : Nat}
    {known : String → Prop}
    (hcompiled : ∀ name, known name → ∃ checks, sources.checksAt 0 name = .ok checks ∧
      validator.store.compiled.find? name = some (sources.compiledAt 0 name))
    (hnested : ∀ name nested, known name → sources.Nests 0 name nested → known nested)
    {message : Message} (hknown : known message.typeName) (reporting : Reporting) (depth : Nat)
    (cause : CompileError) :
    validator.report reporting depth pool message ≠ .failure (.compilation cause) := by
  have hextends : (validator.storeFor pool message).Extends validator.store :=
    (Store.invariant_extends validator.sources validator.store).validate (fun _ _ h => h) pool
      message []
  have hchecks : ∀ name, known name →
      (validator.storeFor pool message).checks name = sources.checksAt 0 name := by
    intro name hname
    obtain ⟨checks, -, hfind⟩ := hcompiled name hname
    rw [Store.checks, hextends name _ hfind, Sources.checksAt]
  rw [report_eq_evaluate]
  refine CheckTable.evaluate_ne_compilation (fun name _ => known name) ?_ ?_ depth depth hknown
    cause
  · intro name _ hname
    obtain ⟨checks, hok, -⟩ := hcompiled name hname
    exact ⟨checks, (hchecks name hname).trans hok⟩
  · rintro name _ nestedType _ hname ⟨checks, field, steps, hstored, hmem, -⟩
    have hok : sources.checksAt 0 name = .ok checks := (hchecks name hname).symm.trans hstored
    have hleads : sources.LeadsTo 0 name nestedType := Compiled.mem_nested_of_result hok hmem rfl
    exact hnested name nestedType hname hleads.nests

section

variable {catalog : Catalog} {order : NameOrder} {settings : Settings} (hlinked : catalog.Linked 0)
  (hlisted : ∀ name ∈ settings.preloaded, (fresh catalog order settings).sources.Declares 0 name)

include hlinked hlisted

/-- What compiling beforehand leads to has been compiled. -/
theorem find?_of_ledTo {name : String}
    (h : (fresh catalog order settings).sources.LedTo 0 (· ∈ settings.preloaded) name) :
    (ofSettings catalog order settings).1.store.compiled.find? name =
      some ((fresh catalog order settings).sources.compiledAt 0 name) := by
  have hsettled : (fresh catalog order settings).Settled 0 := settled_fresh 0 catalog order settings
  have hkeeps := preloadAll_keeps hsettled settings.preloaded
  have hfaithful := hkeeps.sources_eq ▸ hkeeps.settled.1
  refine hfaithful.find?_of_covers ?_ (h.declares hlinked hlisted)
  rw [← hkeeps.sources_eq] at h ⊢
  refine hkeeps.settled.covers_of_ledTo (fun first hfirst => ?_) h
  rw [hkeeps.sources_eq]
  exact hsettled.covers_preloadAll hfirst

/-- **Compiling beforehand is complete.**  It gives no error exactly if every type compiles that it
leads to. -/
theorem ofSettings_eq_none_iff :
    (ofSettings catalog order settings).2 = none ↔
      ∀ name, (fresh catalog order settings).sources.Reaches 0 (· ∈ settings.preloaded) name →
        ∃ checks, (fresh catalog order settings).sources.checksAt 0 name = .ok checks := by
  have hnodup : (fresh catalog order settings).store.compiled.names.Nodup := List.nodup_nil
  have hempty : (fresh catalog order settings).store.AllCompile := by
    intro name compiled hfind
    cases hfind
  have hiff : (ofSettings catalog order settings).2 = none ↔
      (ofSettings catalog order settings).1.store.AllCompile :=
    preloadAll_eq_none_iff hnodup hempty _
  rw [hiff]
  constructor
  · intro hall name hreaches
    have herror := hall name _ (find?_of_ledTo hlinked hlisted hreaches.ledTo)
    exact ⟨_, Compiled.result_eq_ok_iff.mpr ⟨herror, rfl⟩⟩
  · intro hcompile name compiled hfind
    have hsettled : (fresh catalog order settings).Settled 0 :=
      settled_fresh 0 catalog order settings
    -- If they all compile, the types that are reached are closed under nesting.
    have hclosed : ∀ name nested,
        (fresh catalog order settings).sources.Reaches 0 (· ∈ settings.preloaded) name →
        (fresh catalog order settings).sources.LeadsTo 0 name nested →
        (fresh catalog order settings).sources.Reaches 0 (· ∈ settings.preloaded) nested := by
      intro name nested hreaches hnested
      obtain ⟨checks, hok⟩ := hcompile name hreaches
      exact .nested hreaches hok ((Sources.leadsTo_iff hok).mp hnested)
    have hwithin : (ofSettings catalog order settings).1.store.Within _ :=
      hsettled.preloadAll_within hclosed (Store.within_empty _) fun name hname => .listed hname
    have hreaches := hwithin name (Option.isSome_iff_exists.mpr ⟨compiled, hfind⟩)
    obtain ⟨checks, hok⟩ := hcompile name hreaches
    obtain rfl : (fresh catalog order settings).sources.compiledAt 0 name = compiled :=
      Option.some.inj ((find?_of_ledTo hlinked hlisted hreaches.ledTo).symm.trans hfind)
    exact (Compiled.result_eq_ok_iff.mp hok).1

/-- Compiling beforehand gives an error exactly if there is a type that it leads to and that does
not compile. -/
theorem ofSettings_ne_none_iff :
    (ofSettings catalog order settings).2 ≠ none ↔
      ∃ name cause, (fresh catalog order settings).sources.Reaches 0 (· ∈ settings.preloaded) name ∧
        (fresh catalog order settings).sources.checksAt 0 name = .error cause := by
  rw [ne_eq, ofSettings_eq_none_iff hlinked hlisted]
  constructor
  · intro hnot
    obtain ⟨name, hname⟩ := not_forall.mp hnot
    obtain ⟨hreaches, hfails⟩ := Classical.not_imp.mp hname
    cases hchecks : (fresh catalog order settings).sources.checksAt 0 name with
    | error cause => exact ⟨name, cause, hreaches, hchecks⟩
    | ok checks => exact absurd ⟨checks, hchecks⟩ hfails
  · rintro ⟨name, cause, hreaches, herror⟩ hall
    obtain ⟨checks, hok⟩ := hall name hreaches
    cases hok.symm.trans herror

/-- If it gives no error, no call on a message of a type that it leads to ever fails to compile. -/
theorem report_answerAll_ne_compilation (hnone : (ofSettings catalog order settings).2 = none)
    (history : List Request) (pool : Nat) {message : Message}
    (hreaches : (fresh catalog order settings).sources.Reaches 0 (· ∈ settings.preloaded)
      message.typeName) (reporting : Reporting) (depth : Nat) (cause : CompileError) :
    ((ofSettings catalog order settings).1.answerAll history).1.report reporting depth pool
      message ≠ .failure (.compilation cause) := by
  have hcompile := (ofSettings_eq_none_iff hlinked hlisted).mp hnone
  have hextends : ((ofSettings catalog order settings).1.answerAll history).1.store.Extends
      (ofSettings catalog order settings).1.store :=
    (Store.invariant_extends _ _).answerAll (fun _ _ h => h) history
  have hcompiled : ∀ name,
      (fresh catalog order settings).sources.Reaches 0 (· ∈ settings.preloaded) name →
      ∃ checks, (fresh catalog order settings).sources.checksAt 0 name = .ok checks ∧
        ((ofSettings catalog order settings).1.answerAll history).1.store.compiled.find? name =
          some ((fresh catalog order settings).sources.compiledAt 0 name) := by
    intro name hname
    obtain ⟨checks, hok⟩ := hcompile name hname
    exact ⟨checks, hok, hextends name _ (find?_of_ledTo hlinked hlisted hname.ledTo)⟩
  refine report_ne_compilation hcompiled (fun name nested hname hnests => ?_) hreaches reporting
    depth cause
  obtain ⟨checks, hok⟩ := hcompile name hname
  exact .nested hname hok hnests

end

/-- A validator that is not refused is the one that its options make in any case. -/
theorem tryWithOptions_eq_ok {catalog : Catalog} {order : NameOrder}
    {options : List ValidatorOption} {made : Validator}
    (h : tryWithOptions catalog order options = .ok made) :
    (ofSettings catalog order (.ofOptions options)).2 = none ∧
      withOptions catalog order options = made := by
  unfold tryWithOptions at h
  split at h
  case h_1 heq => exact ⟨by rw [heq], by rw [withOptions, heq, Except.ok.inj h]⟩
  case h_2 => cases h

theorem exists_tryWithOptions_eq_error {catalog : Catalog} {order : NameOrder}
    {options : List ValidatorOption} :
    (∃ cause, tryWithOptions catalog order options = .error cause) ↔
      (ofSettings catalog order (.ofOptions options)).2 ≠ none := by
  unfold tryWithOptions
  split
  case h_1 heq => simp [heq]
  case h_2 heq => simp [heq]

/-- **Compiling beforehand is a complete check.**  Take options that list declared types of a pool
whose types are linked.  The validator is refused exactly if, among the types that compiling the
listed ones leads to, there is one that does not compile.  If it is not refused, then it may be
asked anything, of any pools: a call on a message of one of these types, with whatever options,
never fails because something does not compile. -/
theorem tryWithOptions_complete {catalog : Catalog} {order : NameOrder}
    {options : List ValidatorOption} (hlinked : catalog.Linked 0)
    (hlisted : ∀ name, ValidatorOption.Lists options name →
      (catalog.type? ⟨0, name⟩).isSome = true) :
    let sources := (fresh catalog order (.ofOptions options)).sources
    let known := sources.Reaches 0 (ValidatorOption.Lists options)
    ((∃ cause, tryWithOptions catalog order options = .error cause) ↔
      ∃ name cause, known name ∧ sources.checksAt 0 name = .error cause) ∧
    ∀ made, tryWithOptions catalog order options = .ok made →
      ∀ history pool message cause, known message.typeName →
        (∀ callOptions, ((made.answerAll history).1.validate pool message callOptions).2 ≠
          .failure (.compilation cause)) ∧
        ((made.answerAll history).1.violations pool message).2 ≠ .error (.compilation cause) := by
  intro sources known
  have hlisted' : ∀ name ∈ (Settings.ofOptions options).preloaded, sources.Declares 0 name :=
    fun name hname => hlisted name (Settings.mem_preloaded_iff.mp hname)
  have hknown : known = sources.Reaches 0 (· ∈ (Settings.ofOptions options).preloaded) := by
    show sources.Reaches 0 _ = _
    simp only [Settings.mem_preloaded_iff]
  rw [hknown]
  refine ⟨?_, ?_⟩
  · rw [exists_tryWithOptions_eq_error]
    exact ofSettings_ne_none_iff hlinked hlisted'
  · intro made hmade history pool message cause hreaches
    obtain ⟨hadmitted, rfl⟩ := tryWithOptions_eq_ok hmade
    have hcall : ∀ callOptions,
        (((withOptions catalog order options).answerAll history).1.validate pool message
          callOptions).2 ≠ .failure (.compilation cause) := by
      intro callOptions
      rw [validate_eq_report]
      exact report_answerAll_ne_compilation hlinked hlisted' hadmitted history pool hreaches _ _
        cause
    exact ⟨hcall, fun hfound => hcall [] (Outcome.found_eq_error_iff.mp hfound)⟩

end Validator

/-! ## Nodes -/

namespace Sample

theorem type?_catalog {name : String} {type : MessageType}
    (h : catalog.type? ⟨0, name⟩ = some type) : type = nodeType := by
  have hentries : (name, type) ∈ [("Node", nodeType)] := NameMap.mem_entries_of_find? h
  exact (Prod.mk.inj (List.mem_singleton.mp hentries)).2

/-- The pool of nodes is linked. -/
theorem linked_catalog : catalog.Linked 0 where
  nested_declared name type htype field hfield nested hnested := by
    obtain rfl := type?_catalog htype
    rcases List.mem_cons.mp hfield with rfl | hchild
    · cases hnested
    · obtain rfl := List.mem_singleton.mp hchild
      obtain rfl := Option.some.inj hnested
      rfl
  field_names name type htype := by
    obtain rfl := type?_catalog htype
    decide
  oneof_names name type htype := by
    obtain rfl := type?_catalog htype
    decide

/-- Nodes are nested with nodes only. -/
theorem nests_node {nested : String} (h : validator.sources.Nests 0 "Node" nested) :
    nested = "Node" := by
  obtain ⟨schema, field, hschema, hfield, hget, htype⟩ := h
  obtain rfl := Except.ok.inj hschema
  rcases List.mem_cons.mp hfield with rfl | hchild
  · cases hget
  · obtain rfl := List.mem_singleton.mp hchild
    exact (Option.some.inj htype).symm

end Sample

namespace Validator

/-- A validator for nodes is not refused, and then it answers about nodes. -/
theorem tryWithOptions_complete_nodes :
    (∀ cause, tryWithOptions Sample.catalog .written [Sample.rules, .preload ["Node"]] ≠
      .error cause) ∧
    ∀ made, tryWithOptions Sample.catalog .written [Sample.rules, .preload ["Node"]] = .ok made →
      ∀ cause, (made.violations 0 Sample.nameless).2 ≠ .error (.compilation cause) := by
  have hlists : ∀ name,
      ValidatorOption.Lists [Sample.rules, .preload ["Node"]] name → name = "Node" := by
    intro name hlisted
    have hmem : name ∈ ["Node"] := Settings.mem_preloaded_iff.mpr hlisted
    exact List.mem_singleton.mp hmem
  have hlisted : ∀ name, ValidatorOption.Lists [Sample.rules, .preload ["Node"]] name →
      (Sample.catalog.type? ⟨0, name⟩).isSome = true := by
    intro name hname
    rw [hlists name hname]
    rfl
  obtain ⟨hrefused, hanswers⟩ := tryWithOptions_complete Sample.linked_catalog hlisted
  refine ⟨fun cause herror => ?_, fun made hmade cause => ?_⟩
  · obtain ⟨name, other, hreaches, hfails⟩ := hrefused.mp ⟨cause, herror⟩
    have hnode : ∀ {name : String}, Sample.validator.sources.Reaches 0
        (ValidatorOption.Lists [Sample.rules, .preload ["Node"]]) name → name = "Node" := by
      intro name hreaches
      induction hreaches with
      | listed hname => exact hlists _ hname
      | nested _ _ hnests ih => exact Sample.nests_node (ih ▸ hnests)
    obtain rfl := hnode hreaches
    cases hfails
  · exact (hanswers made hmade [] 0 Sample.nameless cause
      (.listed ⟨["Node"], by simp, List.mem_singleton_self _⟩)).2

end Validator

end MessageConstraints
