import Mathlib.Tactic.Common
import MessageConstraints.Proofs.Reasons

/-!
# Compiling turned off

A validator that does not compile on demand has compiled all that it ever will when it is made: the
types that are listed, and those that compiling them leads to (`Sources.Involves`).  A type that is
refused counts among them, and so do the types of the nested messages that it descends into before
the constraint that it is refused for (`Sources.NestsEarly`, `Sources.leadsTo_iff_nestsEarly`).

No call changes what has been compiled, also not one for a schema, which is kept apart
(`Validator.frozen_answerAll`).  So messages of other types are turned down for want of checks,
whatever was asked before, and messages of these types never are, however deep the nested messages
lie (`Validator.compiled_frozen`).
-/

namespace MessageConstraints

/-! ## Types that are compiled along with others -/

namespace Sources

/-- A field of a type asks for recursion into messages of another type, and no constraint that comes
before is refused. -/
def NestsEarly (sources : Sources) (pool : Nat) (name nested : String) : Prop :=
  ∃ schema position field, sources.schemaAt pool name = .ok schema ∧
    schema.Carries position (.field field (.recurse true)) ∧
    field.messageType? = some nested ∧
    ∀ earlierPosition earlier, schema.Carries earlierPosition earlier →
      earlier.Before earlierPosition (.field field (.recurse true)) position →
      earlier.Admissible schema

/-- The types that are involved in compiling some types: these types, and, for each of them, the
types of the nested messages into which it asks for recursion before it is refused, if it is. -/
inductive Involves (sources : Sources) (pool : Nat) (listed : String → Prop) : String → Prop
  | listed {name : String} : listed name → Involves sources pool listed name
  | nested {name nested : String} :
      Involves sources pool listed name → sources.NestsEarly pool name nested →
      Involves sources pool listed nested

end Sources

namespace Compiled

variable {schema : MessageSchema}

/-- The checks are those of the constraints that no inadmissible one comes before. -/
theorem mem_checks_iff {sites : List Site} {check : Check} :
    check ∈ (ofSites schema sites).checks ↔
      ∃ before site after, sites = before ++ site :: after ∧
        site.compile schema = .ok (some check) ∧
        ∀ earlier ∈ before, ∃ compiled, earlier.compile schema = .ok compiled := by
  induction sites with
  | nil =>
    constructor
    · intro h
      cases h
    · rintro ⟨before, site, after, heq, -⟩
      simp at heq
  | cons first rest ih =>
    unfold ofSites
    cases hfirst : first.compile schema with
    | error cause =>
      constructor
      · intro h
        cases h
      · rintro ⟨before, site, after, heq, hsite, hbefore⟩
        cases before with
        | nil =>
          obtain ⟨rfl, -⟩ := List.cons.inj heq
          rw [hfirst] at hsite
          cases hsite
        | cons other before =>
          obtain ⟨rfl, -⟩ := List.cons.inj heq
          obtain ⟨compiled, hcompiled⟩ := hbefore first List.mem_cons_self
          rw [hfirst] at hcompiled
          cases hcompiled
    | ok own =>
      rw [List.mem_append, ih, Option.mem_toList]
      constructor
      · rintro (rfl | ⟨before, site, after, rfl, hsite, hbefore⟩)
        · exact ⟨[], first, rest, rfl, hfirst, by simp⟩
        · exact ⟨first :: before, site, after, rfl, hsite,
            List.forall_mem_cons.mpr ⟨⟨own, hfirst⟩, hbefore⟩⟩
      · rintro ⟨before, site, after, heq, hsite, hbefore⟩
        cases before with
        | nil =>
          obtain ⟨rfl, -⟩ := List.cons.inj heq
          exact Or.inl (Except.ok.inj (hfirst.symm.trans hsite))
        | cons other before =>
          obtain ⟨rfl, rfl⟩ := List.cons.inj heq
          exact Or.inr ⟨before, site, after, rfl, hsite, fun earlier hearlier =>
            hbefore earlier (List.mem_cons_of_mem _ hearlier)⟩

/-- A schema has the check of a constraint exactly if all constraints that come before can be
compiled. -/
theorem mem_checks_iff_carries (htargets : schema.OnTarget) {check : Check} :
    check ∈ (ofSchema schema).checks ↔
      ∃ position site, schema.Carries position site ∧ site.compile schema = .ok (some check) ∧
        ∀ earlierPosition earlier, schema.Carries earlierPosition earlier →
          earlier.Before earlierPosition site position → earlier.Admissible schema := by
  rw [ofSchema, mem_checks_iff]
  constructor
  · rintro ⟨before, site, after, hsites, hsite, hbefore⟩
    obtain ⟨position, hcarries, hearlier⟩ :=
      MessageSchema.exists_position_of_sites htargets hsites
    refine ⟨position, site, hcarries, hsite, fun i earlier hcarried hlt => ?_⟩
    exact (hcarried.decides htargets).ok_iff.mp (hbefore earlier (hearlier i earlier hcarried hlt))
  · rintro ⟨position, site, hcarries, hsite, hearlier⟩
    have hmem := hcarries.mem_sites htargets
    cases herror : (ofSchema schema).error? with
    | none =>
      obtain ⟨before, after, hsites⟩ := List.append_of_mem hmem
      refine ⟨before, site, after, hsites, hsite, fun earlier hbefore => ?_⟩
      refine exists_compile_of_mem herror ?_
      rw [hsites]
      exact List.mem_append_left _ hbefore
    | some cause =>
      obtain ⟨before, refused, after, hsites, hrefused, hbefore⟩ := exists_first_of_error herror
      obtain ⟨refusedPosition, hcarried, hpositions⟩ :=
        MessageSchema.exists_position_of_sites htargets hsites
      -- The constraint that is refused comes neither first nor is it this one, so it comes later.
      have hlater : site.Before position refused refusedPosition := by
        have hnot : ∀ compiled, refused.compile schema ≠ .ok compiled := by
          intro compiled hok
          rw [hrefused] at hok
          cases hok
        rcases site.before_trichotomy position refused refusedPosition with hlt | hgt | ⟨hkind, rfl⟩
        · exact hlt
        · obtain ⟨compiled, hok⟩ :=
            (hcarried.decides htargets).ok_iff.mpr (hearlier _ _ hcarried hgt)
          exact absurd hok (hnot compiled)
        · obtain rfl := hcarries.unique hcarried htargets hkind
          exact absurd hsite (hnot _)
      obtain ⟨front, back, rfl⟩ := List.append_of_mem (hpositions _ _ hcarries hlater)
      refine ⟨front, site, back ++ refused :: after, ?_, hsite, fun earlier hfront =>
        hbefore earlier (List.mem_append_left _ hfront)⟩
      rw [hsites, List.append_assoc, List.cons_append]

end Compiled

namespace Sources

variable {sources : Sources} {pool : Nat} {name nested : String}

/-- What compiling a type leads to are the types that it is nested with before it is refused. -/
theorem leadsTo_iff_nestsEarly :
    sources.LeadsTo pool name nested ↔ sources.NestsEarly pool name nested := by
  cases hschema : sources.schemaAt pool name with
  | error cause =>
    rw [LeadsTo, compiledAt, hschema]
    constructor
    · intro h
      cases h
    · rintro ⟨schema, _, _, hok, -⟩
      rw [hschema] at hok
      cases hok
  | ok schema =>
    have htargets := onTarget_schemaAt hschema
    rw [LeadsTo, compiledAt, hschema, Compiled.nested, List.mem_filterMap]
    simp only [Compiled.mem_checks_iff_carries htargets]
    constructor
    · rintro ⟨check, ⟨position, site, hcarries, hcompile, hearlier⟩, hnested⟩
      cases check with
      | recurse field nestedType =>
        obtain rfl : nestedType = nested := Option.some.inj hnested
        obtain ⟨fieldSchema, rfl, htype, -⟩ := Site.compile_eq_recurse_iff.mp hcompile
        exact ⟨schema, position, fieldSchema, hschema, hcarries, htype, hearlier⟩
      | _ => cases hnested
    · rintro ⟨other, position, field, hother, hcarries, htype, hearlier⟩
      obtain rfl : schema = other := Except.ok.inj (hschema.symm.trans hother)
      have hcompile : (Site.field field (.recurse true)).compile schema =
          .ok (some (.recurse field.field nested)) :=
        Site.compile_eq_recurse_iff.mpr ⟨field, rfl, htype, rfl⟩
      exact ⟨_, ⟨position, _, hcarries, hcompile, hearlier⟩, rfl⟩

/-- A type is nested early only with types into which it asks for recursion. -/
theorem NestsEarly.nests (h : sources.NestsEarly pool name nested) :
    sources.Nests pool name nested := by
  obtain ⟨schema, position, field, hschema, hcarries, htype, -⟩ := h
  exact ⟨schema, field, hschema, List.mem_of_getElem? hcarries.1,
    ConstraintSet.mem_toList_iff.mp hcarries.2, htype⟩

/-- Compiling leads to the types that are involved. -/
theorem Involves.ledTo {listed : String → Prop} (h : sources.Involves pool listed name) :
    sources.LedTo pool listed name := by
  induction h with
  | @listed name hname => exact ⟨name, hname, .refl⟩
  | nested _ hnests ih =>
    obtain ⟨first, hfirst, hleads⟩ := ih
    exact ⟨first, hfirst, hleads.tail (leadsTo_iff_nestsEarly.mpr hnests)⟩

end Sources

/-! ## Calls that compile nothing -/

namespace Settings

/-- Compiling on demand is turned off by any of the options, wherever it is. -/
theorem isLazy_ofOptions_eq_false {options : List ValidatorOption}
    (h : ValidatorOption.disableLazy ∈ options) : (ofOptions options).isLazy = false := by
  rw [ofOptions, foldl_apply, ValidatorOption.any_isDisableLazy.mpr h]
  rfl

end Settings

/-- A type that has not been compiled has no checks, at any depth. -/
theorem CheckTable.evaluate_of_error {table : CheckTable} {typeName : String}
    {cause : CompileError} (h : table typeName = .error cause) (reporting : Reporting)
    (limit levels : Nat) (message : Message) :
    table.evaluate reporting limit levels typeName message = .failure (.compilation cause) := by
  cases levels <;> simp only [evaluate, judge, h]

namespace Validator

variable {validator : Validator}

/-- What a validator is like after calls that compile nothing: it has compiled what it had before,
and all that it has reported are the messages that it was given. -/
structure Frozen (before after : Validator) : Prop where
  isLazy_eq : after.isLazy = before.isLazy
  compiled_eq : after.store.compiled = before.store.compiled
  events_eq : ∃ typeNames : List String,
    after.store.events = before.store.events ++ typeNames.map Event.validating

theorem Frozen.refl (validator : Validator) : Frozen validator validator :=
  ⟨rfl, rfl, [], (List.append_nil _).symm⟩

theorem Frozen.trans {first second third : Validator} (h : Frozen first second)
    (h' : Frozen second third) : Frozen first third := by
  obtain ⟨typeNames, hevents⟩ := h.events_eq
  obtain ⟨typeNames', hevents'⟩ := h'.events_eq
  refine ⟨h'.isLazy_eq.trans h.isLazy_eq, h'.compiled_eq.trans h.compiled_eq,
    typeNames ++ typeNames', ?_⟩
  rw [hevents', hevents, List.map_append, List.append_assoc]

theorem load_of_not_lazy (hlazy : validator.isLazy = false) (ref : TypeRef) :
    validator.load ref = validator := by
  rw [load, hlazy]
  rfl

/-- A message is announced, and its type is not compiled for it. -/
theorem validate_fst_of_not_lazy (hlazy : validator.isLazy = false) (pool : Nat)
    (message : Message) (options : List CallOption) :
    (validator.validate pool message options).1 =
      { validator with store := validator.store.record (.validating message.typeName) } :=
  @load_of_not_lazy { validator with
    store := validator.store.record (.validating message.typeName) } hlazy _

/-- A message comes to what the checks at hand say. -/
theorem validate_snd_of_not_lazy (hlazy : validator.isLazy = false) (pool : Nat)
    (message : Message) (options : List CallOption) :
    (validator.validate pool message options).2 =
      validator.store.evaluate (validator.manner.withOptions options).reporting
        (validator.manner.withOptions options).maxDepth message.typeName message := by
  have hloaded := validate_fst_of_not_lazy hlazy pool message options
  show (validator.validate pool message options).1.store.evaluate
    ((validator.validate pool message options).1.manner.withOptions options).reporting
    ((validator.validate pool message options).1.manner.withOptions options).maxDepth
    message.typeName message = _
  rw [hloaded]
  rfl

theorem frozen_validate (hlazy : validator.isLazy = false) (pool : Nat) (message : Message)
    (options : List CallOption) :
    Frozen validator (validator.validate pool message options).1 := by
  rw [validate_fst_of_not_lazy hlazy]
  exact ⟨rfl, rfl, [message.typeName], rfl⟩

/-- **A call compiles nothing** where compiling on demand is turned off. -/
theorem frozen_answer (hlazy : validator.isLazy = false) (request : Request) :
    Frozen validator (validator.answer request).1 := by
  cases request with
  | validate pool message options => exact frozen_validate hlazy pool message options
  | violations pool message => exact frozen_validate hlazy pool message []
  | schema ref =>
    refine ⟨rfl, Store.compiled_resolve _ _ ref, [], ?_⟩
    rw [List.map_nil, List.append_nil]
    exact Store.events_resolve ref

/-- No number of calls compiles anything. -/
theorem frozen_answerAll (hlazy : validator.isLazy = false) (requests : List Request) :
    Frozen validator (validator.answerAll requests).1 := by
  induction requests generalizing validator with
  | nil => exact Frozen.refl validator
  | cons request rest ih =>
    have hfirst := frozen_answer hlazy request
    exact hfirst.trans (ih (hfirst.isLazy_eq.trans hlazy))

/-! ## What has been compiled when a validator is made -/

/-- Only types that are involved have been compiled. -/
theorem involves_of_find? {catalog : Catalog} {order : NameOrder} {settings : Settings}
    {name : String} {compiled : Compiled}
    (h : (ofSettings catalog order settings).1.store.compiled.find? name = some compiled) :
    (fresh catalog order settings).sources.Involves 0 (· ∈ settings.preloaded) name := by
  have hsettled : (fresh catalog order settings).Settled 0 := settled_fresh 0 catalog order settings
  have hclosed : ∀ name nested,
      (fresh catalog order settings).sources.Involves 0 (· ∈ settings.preloaded) name →
      (fresh catalog order settings).sources.LeadsTo 0 name nested →
      (fresh catalog order settings).sources.Involves 0 (· ∈ settings.preloaded) nested :=
    fun name nested hinvolves hnested =>
      .nested hinvolves (Sources.leadsTo_iff_nestsEarly.mp hnested)
  have hwithin : (ofSettings catalog order settings).1.store.Within _ :=
    hsettled.preloadAll_within hclosed (Store.within_empty _) fun name hname => .listed hname
  exact hwithin name (Option.isSome_iff_exists.mpr ⟨compiled, h⟩)

/-! ## Answers -/

/-- A message that fails for want of checks fails for a reason unless its type, or one of those it
is nested with, is not compiled. -/
theorem evaluate_ne_notCompiled {sources : Sources} {store : Store} {known : String → Prop}
    (hdeclared : ∀ name, known name → sources.Declares 0 name)
    (hcompiled : ∀ name, known name →
      store.compiled.find? name = some (sources.compiledAt 0 name))
    (hnested : ∀ name nested, known name → sources.NestsEarly 0 name nested → known nested)
    {message : Message} (hknown : known message.typeName) (reporting : Reporting) (limit : Nat)
    (typeName : String) :
    store.evaluate reporting limit message.typeName message ≠
      .failure (.compilation (.notCompiled typeName)) := by
  have hchecks : ∀ name, known name → store.checks name = sources.checksAt 0 name := by
    intro name hname
    rw [Store.checks, hcompiled name hname, Sources.checksAt]
  have hvisits : ∀ name (outer : Message) nestedType (inner : Message), known name →
      CheckTable.Visits store.checks name outer nestedType inner → known nestedType := by
    rintro name outer nestedType inner hname ⟨checks, field, steps, hstored, hmem, -⟩
    have hok : sources.checksAt 0 name = .ok checks := (hchecks name hname).symm.trans hstored
    have hleads : sources.LeadsTo 0 name nestedType := Compiled.mem_nested_of_result hok hmem rfl
    exact hnested name nestedType hname (Sources.leadsTo_iff_nestsEarly.mp hleads)
  intro hfails
  obtain ⟨failing, inner, hfailing, herror⟩ :=
    CheckTable.evaluate_eq_compilation (fun name _ => known name) hvisits hknown hfails
  rw [hchecks failing hfailing] at herror
  exact Sources.isReason_of_checksAt (hdeclared failing hfailing) herror

/-- **What has been compiled is frozen** where compiling on demand is turned off.  Take options that
turn it off and list declared types of a pool whose types are linked, and ask the validator
anything.  A message of a type that is not involved in compiling the listed ones is turned down for
want of checks; a message of one that is involved never is, whatever nested messages it has; and all
that has been reported since the validator was made are the messages that it was given. -/
theorem compiled_frozen {catalog : Catalog} {order : NameOrder} {options : List ValidatorOption}
    (hlinked : catalog.Linked 0)
    (hlisted : ∀ name, ValidatorOption.Lists options name →
      (catalog.type? ⟨0, name⟩).isSome = true)
    (hoff : ValidatorOption.disableLazy ∈ options) (history : List Request) :
    let sources := (fresh catalog order (.ofOptions options)).sources
    let involved := sources.Involves 0 (ValidatorOption.Lists options)
    let made := withOptions catalog order options
    let validator := (made.answerAll history).1
    (∀ pool message, ¬ involved message.typeName → ∃ cause : CompileError,
      cause = .notCompiled message.typeName ∧
      cause.message = "no evaluator available for " ++ message.typeName ∧
      (∀ callOptions, (validator.validate pool message callOptions).2 =
        .failure (.compilation cause)) ∧
      (validator.violations pool message).2 = .error (.compilation cause)) ∧
    (∀ pool message typeName, involved message.typeName →
      (∀ callOptions, (validator.validate pool message callOptions).2 ≠
        .failure (.compilation (.notCompiled typeName))) ∧
      (validator.violations pool message).2 ≠ .error (.compilation (.notCompiled typeName))) ∧
    ∃ typeNames : List String,
      validator.store.events = made.store.events ++ typeNames.map Event.validating := by
  intro sources involved made validator
  have hlisted' : ∀ name ∈ (Settings.ofOptions options).preloaded, sources.Declares 0 name :=
    fun name hname => hlisted name (Settings.mem_preloaded_iff.mp hname)
  have hinvolved : involved = sources.Involves 0 (· ∈ (Settings.ofOptions options).preloaded) := by
    show sources.Involves 0 _ = _
    simp only [Settings.mem_preloaded_iff]
  rw [hinvolved]
  have hmade : made.isLazy = false :=
    (withOptions_keeps catalog order options).isLazy_eq.trans
      (Settings.isLazy_ofOptions_eq_false hoff)
  have hfrozen : Frozen made validator := frozen_answerAll hmade history
  have hlazy : validator.isLazy = false := hfrozen.isLazy_eq.trans hmade
  refine ⟨?_, ?_, hfrozen.events_eq⟩
  · intro pool message hnot
    have hnone : validator.store.checks message.typeName =
        .error (.notCompiled message.typeName) := by
      unfold Store.checks
      cases hfind : validator.store.compiled.find? message.typeName with
      | none => rfl
      | some compiled =>
        rw [hfrozen.compiled_eq] at hfind
        exact absurd (involves_of_find? hfind) hnot
    have hcall : ∀ callOptions, (validator.validate pool message callOptions).2 =
        .failure (.compilation (.notCompiled message.typeName)) := by
      intro callOptions
      rw [validate_snd_of_not_lazy hlazy]
      exact CheckTable.evaluate_of_error hnone _ _ _ message
    exact ⟨_, rfl, rfl, hcall, Outcome.found_eq_error_iff.mpr (hcall [])⟩
  · intro pool message typeName hknown
    have hcompiled : ∀ name, sources.Involves 0 (· ∈ (Settings.ofOptions options).preloaded) name →
        validator.store.compiled.find? name = some (sources.compiledAt 0 name) := by
      intro name hname
      rw [hfrozen.compiled_eq]
      exact find?_of_ledTo hlinked hlisted' hname.ledTo
    have hcall : ∀ callOptions, (validator.validate pool message callOptions).2 ≠
        .failure (.compilation (.notCompiled typeName)) := by
      intro callOptions
      rw [validate_snd_of_not_lazy hlazy]
      exact evaluate_ne_notCompiled (fun name hname => hname.ledTo.declares hlinked hlisted')
        hcompiled (fun name nested hname hnests => .nested hname hnests) hknown _ _ typeName
    exact ⟨hcall, fun hfound => hcall [] (Outcome.found_eq_error_iff.mp hfound)⟩

/-- With compiling on demand turned off, a validator for nodes answers about nodes and knows no
leaves. -/
theorem compiled_frozen_nodes :
    (∀ typeName, ((withOptions Sample.catalog .written
        [.disableLazy, Sample.rules, .preload ["Node"]]).violations 0 Sample.nameless).2 ≠
          .error (.compilation (.notCompiled typeName))) ∧
    ((withOptions Sample.catalog .written
        [.disableLazy, Sample.rules, .preload ["Node"]]).violations 0 ⟨"Leaf", []⟩).2 =
          .error (.compilation (.notCompiled "Leaf")) := by
  have hlists : ∀ name, ValidatorOption.Lists
      [.disableLazy, Sample.rules, .preload ["Node"]] name → name = "Node" := by
    intro name hlisted
    have hmem : name ∈ ["Node"] := Settings.mem_preloaded_iff.mpr hlisted
    exact List.mem_singleton.mp hmem
  have hlisted : ∀ name, ValidatorOption.Lists
      [.disableLazy, Sample.rules, .preload ["Node"]] name →
      (Sample.catalog.type? ⟨0, name⟩).isSome = true := by
    intro name hname
    rw [hlists name hname]
    rfl
  have hnode : ∀ name, Sample.validator.sources.Involves 0
      (ValidatorOption.Lists [.disableLazy, Sample.rules, .preload ["Node"]]) name →
      name = "Node" := by
    intro name hinvolves
    induction hinvolves with
    | listed hname => exact hlists _ hname
    | nested _ hnests ih => exact Sample.nests_node (ih ▸ hnests.nests)
  obtain ⟨houtside, hinside, -⟩ :=
    compiled_frozen Sample.linked_catalog hlisted (by simp) []
  refine ⟨fun typeName => ?_, ?_⟩
  · exact (hinside 0 Sample.nameless typeName
      (.listed ⟨["Node"], by simp, List.mem_singleton_self _⟩)).2
  · have hother : "Leaf" ≠ "Node" := by decide
    obtain ⟨cause, rfl, -, -, hleaf⟩ := houtside 0 ⟨"Leaf", []⟩ fun hinvolves =>
      hother (hnode "Leaf" hinvolves)
    exact hleaf

end Validator

end MessageConstraints
