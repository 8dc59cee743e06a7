import GridBeans.Proofs.Generation.AllOrNothing
import GridBeans.Proofs.Generation.Sources

/-!
# What a store does to a desk

A store factory writes to the sheet first and looks up what its dialect needs only afterwards, so
some of its failures leave a bean behind and others do not. Every way in which it can end is a rule
of one relation, which says what is reported and what has become of the sheet and of the registry.
-/
namespace GridBeans.Generation

open GridBeans.Xml GridBeans.Markup GridBeans.Config GridBeans.Catalogue

/-! ## Scripts on desks -/

/-- A part that succeeds leaves a sheet, on which the script goes on. -/
theorem Script.runOn_bind {α β : Type} {x : Script α} {a : α} (result : x.outcome = .ok a)
    (f : α → Script β) (sheet : Sheet) :
    (x >>= f).runOn sheet = (f a).runOn (x.runOn sheet) := by
  have marks : (x >>= f).marks = x.marks ++ (f a).marks := by
    show (x.andThen f).marks = _
    rw [Script.marks_andThen, result]
  rw [Script.runOn, marks, Sheet.run_append]
  rfl

namespace Desk

variable {α β : Type}

/-- The desk once a section is written on its sheet. -/
def withSection (desk : Desk) (lines : List Line) : Desk :=
  ⟨⟨desk.sheet.lines ++ (desk.sheet.cursor.ahead lines ++ deeper desk.sheet.cursor.depth lines),
    desk.sheet.cursor.behind lines⟩, desk.registry⟩

def register (desk : Desk) (s : DataSource) : Desk :=
  ⟨desk.sheet, desk.registry.register s⟩

/-- A lookup changes neither the sheet nor the registry, whether or not it succeeds. -/
theorem run_ofExcept (desk : Desk) (outcome : Except Failure α) :
    desk.run (Script.ofExcept outcome) = desk :=
  congrArg (Desk.mk · desk.registry) (Script.runOn_ofExcept outcome desk.sheet)

/-- A part that succeeds leaves a desk, on which the script goes on. -/
theorem run_bind (desk : Desk) {x : Script α} {a : α} (result : x.outcome = .ok a)
    (f : α → Script β) : desk.run (x >>= f) = (desk.run x).run (f a) := by
  have sources : (x >>= f).sources = x.sources ++ (f a).sources := by
    rw [Script.sources_bind, result]
  have registry : (x >>= f).registerIn desk.registry =
      (f a).registerIn (x.registerIn desk.registry) := by
    rw [Script.registerIn, sources, Registry.registerAll, List.foldl_append]
    rfl
  rw [run, run, Script.runOn_bind result, registry]
  rfl

/-- What is looked up and not found leaves the desk as it is, whatever would have followed. -/
theorem run_lookup_error (desk : Desk) (e : Failure) (f : α → Script β) :
    desk.run (Script.ofExcept (.error e) >>= f) = desk :=
  desk.run_ofExcept (.error e : Except Failure β)

theorem run_register (desk : Desk) (s : DataSource) :
    desk.run (Script.register s) = desk.register s :=
  congrArg (Desk.mk · (desk.registry.register s))
    (Script.runOn_ofExcept (.ok ()) desk.sheet)

end Desk

/-! ## Ways to end -/

def StoreKind.hasSection (k : StoreKind) (f : StoreFactoryConfig) : Bool :=
  match k with
  | .jdbcPojo => f.jdbcPojo.isSome
  | .jdbcBlob => f.jdbcBlob.isSome
  | .hibernateBlob => f.hibernateBlob.isSome

/-- The factory maps objects to tables with these settings and in this dialect. -/
structure MapsTables (f : StoreFactoryConfig) (settings : JdbcPojoStoreFactory)
    (dialect : String) : Prop where
  kind : f.kind = some "CacheJdbcPojoStoreFactory"
  given : f.jdbcPojo = some settings
  named : settings.dialect = some dialect
  filled : dialect ≠ ""

/-- The data source that a factory calls for: its bean, of the class that goes with the dialect. -/
def CallsFor (f : StoreFactoryConfig) (s : DataSource) : Prop :=
  ∃ settings dialect, MapsTables f settings dialect ∧
    dataSourceClass? dialect = some s.className ∧
    settings.dataSourceBean = some s.beanId ∧ s.beanId ≠ ""

/-- What comes of a store factory on a desk: its result, and the desk that it leaves. -/
inductive StoreEnding (desk : Desk) :
    Option StoreFactoryConfig → Except Failure Bool → Desk → Prop
  | absent : StoreEnding desk none (.ok false) desk
  | unset {f : StoreFactoryConfig} : f.kind = none ∨ f.kind = some "" →
      StoreEnding desk (some f) (.ok false) desk
  | unknownKind {f : StoreFactoryConfig} {kind : String} : f.kind = some kind → kind ≠ "" →
      kind ∉ storeKinds →
      StoreEnding desk (some f) (.error (.unknownKind .storeFactory kind)) desk
  | missingSection {f : StoreFactoryConfig} {k : StoreKind} : f.kind = some k.name →
      k.hasSection f = false →
      StoreEnding desk (some f) (.error (.missingSection .storeFactory k.name)) desk
  | unknownDialect {f : StoreFactoryConfig} {settings : JdbcPojoStoreFactory} {dialect : String} :
      MapsTables f settings dialect → dataSourceClass? dialect = none →
      StoreEnding desk (some f) (.error (.unknownKind .dialect dialect))
        (desk.withSection (storeLines (some f)))
  | missingBean {f : StoreFactoryConfig} {settings : JdbcPojoStoreFactory}
      {dialect className : String} :
      MapsTables f settings dialect → dataSourceClass? dialect = some className →
      settings.dataSourceBean = none ∨ settings.dataSourceBean = some "" →
      StoreEnding desk (some f)
        (.error (.missingField "CacheJdbcPojoStoreFactory" "dataSourceBean"))
        (desk.withSection (storeLines (some f)))
  | registered {f : StoreFactoryConfig} {s : DataSource} : CallsFor f s →
      StoreEnding desk (some f) (.ok true)
        ((desk.withSection (storeLines (some f))).register s)
  | written {f : StoreFactoryConfig} {k : StoreKind} : f.kind = some k.name →
      k.hasSection f = true → (∀ settings dialect, ¬ MapsTables f settings dialect) →
      StoreEnding desk (some f) (.ok true) (desk.withSection (storeLines (some f)))

/-! ## Every factory ends in one of the ways -/

/-- The bean of a shape adds its section to the sheet and leaves the registry alone. -/
theorem run_shapedBean (desk : Desk) (name : String) (shape : BeanShape)
    (members : List (String × Json.Value)) (force : Bool) :
    desk.run (shapedBean name shape members force) =
      desk.withSection (shapedLines name shape members force) := by
  have sheet := (shapedBean_opens name shape members force).runOn_eq
    (failure?_shapedBean name shape members force) desk.sheet
  have registry : (shapedBean name shape members force).registerIn desk.registry =
      desk.registry := by
    rw [Script.registerIn, sources_shapedBean]
    rfl
  rw [Desk.run, sheet, registry]
  rfl

theorem outcome_storeFactoryBean {α : Type} [HasMembers α] (kind : StoreKind) (settings : α) :
    (storeFactoryBean kind settings).outcome = .ok () := by
  obtain ⟨u, result⟩ :=
    (storeFactoryBean kind settings).exists_outcome_ok_iff.mpr (failure?_storeFactoryBean _ _)
  exact result

/-- A kind is the one under its name. -/
theorem StoreKind.ofName_name (k : StoreKind) : StoreKind.ofName k.name = .ok k := by
  cases k <;> decide

theorem StoreKind.name_injective {k other : StoreKind} (same : k.name = other.name) :
    k = other := by
  have found := other.ofName_name
  rw [← same, k.ofName_name] at found
  exact Except.ok.inj found

theorem StoreKind.nonEmpty?_name (k : StoreKind) : Text.nonEmpty? (some k.name) = some k.name := by
  cases k <;> decide

/-- The outline of a store whose kind is known is the bean of its kind. -/
theorem storeLines_of_kind {f : StoreFactoryConfig} {k : StoreKind}
    (named : f.kind = some k.name) :
    storeLines (some f) = shapedLines "cacheStoreFactory" k.shape (k.settings f) true := by
  rw [storeLines, Option.toList_some, List.flatMap_singleton, chosenLines, named,
    k.nonEmpty?_name]
  simp only [k.ofName_name]

/-- What the settings of a store need, by their dialect and their bean. -/
inductive SourceNeeded (settings : JdbcPojoStoreFactory) :
    Except Failure (Option DataSource) → Prop
  | nothing : settings.dialect = none ∨ settings.dialect = some "" →
      SourceNeeded settings (.ok none)
  | unknown {dialect : String} : settings.dialect = some dialect → dialect ≠ "" →
      dataSourceClass? dialect = none →
      SourceNeeded settings (.error (.unknownKind .dialect dialect))
  | beanMissing {dialect className : String} : settings.dialect = some dialect → dialect ≠ "" →
      dataSourceClass? dialect = some className →
      settings.dataSourceBean = none ∨ settings.dataSourceBean = some "" →
      SourceNeeded settings (.error (.missingField "CacheJdbcPojoStoreFactory" "dataSourceBean"))
  | source {dialect className beanId : String} : settings.dialect = some dialect → dialect ≠ "" →
      dataSourceClass? dialect = some className →
      settings.dataSourceBean = some beanId → beanId ≠ "" →
      SourceNeeded settings (.ok (some ⟨beanId, className⟩))

/-- What a store calls for is decided by the dialect first, and by the bean only for a known
dialect. -/
theorem dataSourceOf_needed (settings : JdbcPojoStoreFactory) :
    SourceNeeded settings (dataSourceOf settings) := by
  unfold dataSourceOf
  rcases nonEmpty?_cases .dialect [] settings.dialect with
    ⟨none, -, unset⟩ | ⟨dialect, named, chosen, filled, -⟩
  · rw [none]
    exact .nothing unset
  · rw [chosen]
    cases found : dataSourceClass? dialect with
    | none =>
      simp only [found]
      exact .unknown named filled found
    | some className =>
      simp only [found]
      rcases nonEmpty?_cases .dialect [] settings.dataSourceBean with
        ⟨none, -, unset⟩ | ⟨beanId, given, isBean, beanFilled, -⟩
      · rw [none]
        exact .beanMissing named filled found unset
      · rw [isBean]
        exact .source named filled found given beanFilled

/-- A result behind a script makes no difference to the desk. -/
theorem Desk.run_result {α β : Type} (desk : Desk) (x : Script α) (b : β) :
    desk.run (x >>= fun _ => pure b) = desk.run x := by
  have marks : (x >>= fun _ => pure b).marks = x.marks := by
    show (x.andThen fun _ => pure b).marks = _
    rw [Script.marks_andThen]
    cases x.outcome with
    | error e => exact List.append_nil _
    | ok a => exact List.append_nil _
  rw [run, run, Script.runOn, Script.registerIn, marks, Script.sources_next_pure]
  rfl

section

variable {f : StoreFactoryConfig} {k : StoreKind}

theorem storeFactory_of_kind (named : f.kind = some k.name) :
    storeFactory (some f) = (storeFactoryOf k f >>= fun _ => pure true) := by
  rw [storeFactory, named, k.nonEmpty?_name]
  simp only [k.ofName_name]
  rfl

/-- The bean of a store is the outline of the factory. -/
theorem run_storeFactoryBean {α : Type} [HasMembers α] (desk : Desk) {settings : α}
    (named : f.kind = some k.name) (given : k.settings f = HasMembers.members settings) :
    desk.run (storeFactoryBean k settings) = desk.withSection (storeLines (some f)) := by
  rw [storeLines_of_kind named, given]
  exact run_shapedBean desk _ _ _ true

/-- What asks for a section that is not given fails there. -/
theorem bind_requiredSection {α β : Type} {given : Option α} (missing : given.isSome = false)
    (slot : Slot) (kind : String) (g : α → Script β) :
    (Script.ofExcept (requiredSection slot kind given) >>= g) =
      Script.fail (.missingSection slot kind) := by
  cases given with
  | none => rfl
  | some a => cases missing

/-- A factory without the section of its kind fails before it writes anything. -/
theorem ends_without_section (desk : Desk) (named : f.kind = some k.name)
    (missing : k.hasSection f = false) :
    StoreEnding desk (some f) (storeFactory (some f)).outcome
      (desk.run (storeFactory (some f))) := by
  have failing : storeFactoryOf k f = Script.fail (.missingSection .storeFactory k.name) := by
    cases k with
    | jdbcPojo | jdbcBlob | hibernateBlob => exact bind_requiredSection missing _ _ _
  have nothing : desk.run (storeFactory (some f)) = desk := by
    rw [storeFactory_of_kind named, Desk.run_result, failing]
    exact desk.run_ofExcept (.error _)
  rw [nothing, storeFactory_of_kind named, Script.outcome_bind, failing]
  exact .missingSection named missing

/-- A factory that is not one for tables writes its bean and registers nothing. -/
theorem ends_other_kind {α : Type} [HasMembers α] (desk : Desk) {settings : α}
    (named : f.kind = some k.name) (given : k.hasSection f = true) (other : k ≠ .jdbcPojo)
    (asMembers : k.settings f = HasMembers.members settings)
    (parts : storeFactoryOf k f = storeFactoryBean k settings) :
    StoreEnding desk (some f) (storeFactory (some f)).outcome
      (desk.run (storeFactory (some f))) := by
  rw [storeFactory_of_kind named, Desk.run_result, Script.outcome_bind, parts,
    outcome_storeFactoryBean, run_storeFactoryBean desk named asMembers]
  refine .written named given fun _ _ mapped => other ?_
  exact StoreKind.name_injective (Option.some.inj (named.symm.trans mapped.kind))

/-- A factory that maps objects to tables looks up what its dialect needs behind its bean. -/
theorem ends_jdbcPojo (desk : Desk) (named : f.kind = some StoreKind.jdbcPojo.name)
    {settings : JdbcPojoStoreFactory} (given : f.jdbcPojo = some settings) :
    StoreEnding desk (some f) (storeFactory (some f)).outcome
      (desk.run (storeFactory (some f))) := by
  have asMembers : StoreKind.jdbcPojo.settings f = HasMembers.members settings := by
    rw [StoreKind.settings, given]
    rfl
  have parts : storeFactoryOf .jdbcPojo f =
      (storeFactoryBean .jdbcPojo settings >>= fun _ =>
        Script.ofExcept (dataSourceOf settings) >>= fun source =>
          Script.forSome source Script.register) := by
    rw [storeFactoryOf, given]
    rfl
  have written := outcome_storeFactoryBean .jdbcPojo settings
  have result : (storeFactoryOf .jdbcPojo f).outcome = (dataSourceOf settings).map fun _ => () := by
    rw [parts, Script.outcome_bind, written]
    cases dataSourceOf settings with
    | error e => rfl
    | ok source => cases source <;> rfl
  have left : desk.run (storeFactoryOf .jdbcPojo f) =
      (desk.withSection (storeLines (some f))).run
        (Script.ofExcept (dataSourceOf settings) >>= fun source =>
          Script.forSome source Script.register) := by
    rw [parts, Desk.run_bind _ written, run_storeFactoryBean desk named asMembers]
  have hasSection : StoreKind.jdbcPojo.hasSection f = true := by
    rw [StoreKind.hasSection, given]
    rfl
  generalize found : dataSourceOf settings = needed at result left
  rw [storeFactory_of_kind named, Desk.run_result, Script.outcome_bind, result, left]
  cases found ▸ dataSourceOf_needed settings with
  | nothing unset =>
    rw [Desk.run_bind _ rfl, Desk.run_ofExcept]
    show StoreEnding desk _ _ (Desk.run _ (Script.ofExcept (.ok ())))
    rw [Desk.run_ofExcept]
    refine .written named hasSection ?_
    rintro other dialect ⟨-, otherGiven, isDialect, filled⟩
    obtain rfl : settings = other := Option.some.inj (given.symm.trans otherGiven)
    rcases unset with unset | unset
    · rw [unset] at isDialect
      cases isDialect
    · rw [unset] at isDialect
      exact filled (Option.some.inj isDialect).symm
  | unknown isDialect filled unknown =>
    rw [Desk.run_lookup_error]
    exact .unknownDialect ⟨named, given, isDialect, filled⟩ unknown
  | beanMissing isDialect filled known unset =>
    rw [Desk.run_lookup_error]
    exact .missingBean ⟨named, given, isDialect, filled⟩ known unset
  | source isDialect filled known isBean beanFilled =>
    rw [Desk.run_bind _ rfl, Desk.run_ofExcept]
    show StoreEnding desk _ _ (Desk.run _ (Script.register _))
    rw [Desk.run_register]
    exact .registered ⟨settings, _, ⟨named, given, isDialect, filled⟩, known, isBean, beanFilled⟩

end

/-- Every run of a store factory ends in one of the listed ways, for any factory and on any desk. -/
theorem storeFactory_ends (factory : Option StoreFactoryConfig) (desk : Desk) :
    StoreEnding desk factory (storeFactory factory).outcome (desk.run (storeFactory factory)) := by
  cases factory with
  | none =>
    show StoreEnding desk none _ (desk.run (Script.ofExcept (.ok false)))
    rw [Desk.run_ofExcept]
    exact .absent
  | some f =>
    rcases nonEmpty?_cases .storeFactory storeKinds f.kind with
      ⟨skipped, -, unset⟩ | ⟨kind, given, chosen, filled, -⟩
    · have nothing : storeFactory (some f) = Script.ofExcept (.ok false) := by
        rw [storeFactory, skipped]
        rfl
      rw [nothing, Desk.run_ofExcept]
      exact .unset unset
    · have names : StoreKind.all.map StoreKind.name = storeKinds := rfl
      rcases find_cases names .storeFactory kind with ⟨k, -, rfl, -⟩ | ⟨missing, fault⟩
      · cases isGiven : k.hasSection f with
        | false => exact ends_without_section desk given isGiven
        | true =>
          cases k with
          | jdbcPojo =>
            obtain ⟨settings, found⟩ := Option.isSome_iff_exists.mp isGiven
            exact ends_jdbcPojo desk given found
          | jdbcBlob =>
            obtain ⟨settings, found⟩ := Option.isSome_iff_exists.mp isGiven
            exact ends_other_kind desk given isGiven (by decide)
              (by rw [StoreKind.settings, found]; rfl) (by rw [storeFactoryOf, found]; rfl)
          | hibernateBlob =>
            obtain ⟨settings, found⟩ := Option.isSome_iff_exists.mp isGiven
            exact ends_other_kind desk given isGiven (by decide)
              (by rw [StoreKind.settings, found]; rfl) (by rw [storeFactoryOf, found]; rfl)
      · have failing : storeFactory (some f) =
            Script.ofExcept (.error (.unknownKind .storeFactory kind)) := by
          rw [storeFactory, chosen]
          simp only [StoreKind.ofName, missing]
          rfl
        rw [failing, Desk.run_ofExcept]
        exact .unknownKind given filled (not_mem_of_kindFaults fault)

/-! ## Registry and sheet -/

/-- The settings and the dialect by which a factory maps tables are determined by the factory. -/
theorem MapsTables.unique {f : StoreFactoryConfig} {settings other : JdbcPojoStoreFactory}
    {dialect otherDialect : String} (first : MapsTables f settings dialect)
    (second : MapsTables f other otherDialect) : other = settings ∧ otherDialect = dialect := by
  obtain rfl := Option.some.inj (second.given.symm.trans first.given)
  exact ⟨rfl, Option.some.inj (second.named.symm.trans first.named)⟩

/-- The property of a factory that maps objects to tables is complete. -/
theorem storeLines_of_mapsTables {f : StoreFactoryConfig} {settings : JdbcPojoStoreFactory}
    {dialect : String} (mapped : MapsTables f settings dialect) :
    WholeLines (storeLines (some f)) ∧ ∃ children, nodesOf (storeLines (some f)) =
      [.element "property" [("name", "cacheStoreFactory")]
        [.element "bean" [("class", BeanShape.jdbcPojoStoreFactory.className)] children]] := by
  rw [storeLines_of_kind (k := .jdbcPojo) mapped.kind]
  exact shapedLines_forced _ _ _

/-- What a failure of a store factory leaves: the registry and the depth as they were, and the sheet
either as it was, where the kind or its section is missing, or with the one property of the
store. -/
structure FailureKeeps (desk : Desk) (factory : Option StoreFactoryConfig) (e : Failure)
    (after : Desk) : Prop where
  registry : after.registry = desk.registry
  depth : after.sheet.cursor.depth = desk.sheet.cursor.depth
  sheet :
    (∃ kind, e = .unknownKind .storeFactory kind ∨ e = .missingSection .storeFactory kind) ∧
        after.sheet = desk.sheet ∨
      ((∃ dialect, e = .unknownKind .dialect dialect) ∨
          e = .missingField "CacheJdbcPojoStoreFactory" "dataSourceBean") ∧
        after = desk.withSection (storeLines factory) ∧ WholeLines (storeLines factory) ∧
        ∃ children, nodesOf (storeLines factory) =
          [.element "property" [("name", "cacheStoreFactory")]
            [.element "bean" [("class", BeanShape.jdbcPojoStoreFactory.className)] children]]

namespace StoreEnding

variable {desk after : Desk} {factory : Option StoreFactoryConfig} {result : Except Failure Bool}

/-- The registry changes only if the factory calls for a data source, and succeeds. -/
theorem of_changed (ending : StoreEnding desk factory result after)
    (changed : after.registry ≠ desk.registry) :
    result = .ok true ∧ ∃ f ∈ factory, ∃ s, CallsFor f s := by
  cases ending with
  | registered calls => exact ⟨rfl, _, rfl, _, calls⟩
  | absent | unset | unknownKind | missingSection | unknownDialect | missingBean | written =>
    exact absurd rfl changed

/-- A data source that a factory calls for is registered behind the section of its bean. -/
theorem of_callsFor {f : StoreFactoryConfig} {s : DataSource}
    (ending : StoreEnding desk (some f) result after) (calls : CallsFor f s) :
    result = .ok true ∧ after.registry = desk.registry.register s := by
  obtain ⟨settings, dialect, mapped, known, bean, filled⟩ := calls
  cases ending with
  | unset unset =>
    rw [mapped.kind] at unset
    simp at unset
  | unknownKind given _ unknown =>
    rw [mapped.kind] at given
    exact absurd (Option.some.inj given ▸ by decide) unknown
  | @missingSection _ k named missing =>
    have same : StoreKind.jdbcPojo.name = k.name :=
      Option.some.inj (mapped.kind.symm.trans named)
    obtain rfl := StoreKind.name_injective same
    rw [StoreKind.hasSection, mapped.given] at missing
    cases missing
  | unknownDialect other unknown =>
    obtain ⟨rfl, rfl⟩ := mapped.unique other
    rw [known] at unknown
    cases unknown
  | missingBean other _ unset =>
    obtain ⟨rfl, rfl⟩ := mapped.unique other
    rw [bean] at unset
    rcases unset with unset | unset
    · cases unset
    · exact absurd (Option.some.inj unset) filled
  | @registered _ t otherCalls =>
    obtain ⟨_, _, other, otherKnown, otherBean, -⟩ := otherCalls
    obtain ⟨rfl, rfl⟩ := mapped.unique other
    have sameBean : s.beanId = t.beanId := Option.some.inj (bean.symm.trans otherBean)
    have sameClass : s.className = t.className := Option.some.inj (known.symm.trans otherKnown)
    have same : (⟨t.beanId, t.className⟩ : DataSource) = ⟨s.beanId, s.className⟩ := by
      rw [sameBean, sameClass]
    exact ⟨rfl, congrArg desk.registry.register same⟩
  | written _ _ plain => exact absurd mapped (plain settings dialect)

/-- A failure keeps what `FailureKeeps` states: the registry always, the sheet if nothing was
written yet. -/
theorem of_error {e : Failure} (ending : StoreEnding desk factory result after)
    (failed : result = .error e) : FailureKeeps desk factory e after := by
  cases ending with
  | absent | unset | registered | written => cases failed
  | @unknownKind _ kind =>
    cases failed
    exact ⟨rfl, rfl, .inl ⟨⟨kind, .inl rfl⟩, rfl⟩⟩
  | @missingSection _ k =>
    cases failed
    exact ⟨rfl, rfl, .inl ⟨⟨k.name, .inr rfl⟩, rfl⟩⟩
  | @unknownDialect _ _ dialect mapped =>
    cases failed
    exact ⟨rfl, Cursor.depth_behind _ _,
      .inr ⟨.inl ⟨dialect, rfl⟩, rfl, storeLines_of_mapsTables mapped⟩⟩
  | missingBean mapped =>
    cases failed
    exact ⟨rfl, Cursor.depth_behind _ _, .inr ⟨.inr rfl, rfl, storeLines_of_mapsTables mapped⟩⟩

end StoreEnding

/-- A store factory ends on any desk as one of the rules says. The registry changes only if the
factory succeeds and calls for a data source, and then this one is registered; a failure keeps the
registry and the depth, and also the sheet if the kind or its section is missing, while one for the
dialect or its bean comes behind the one complete property of the store. What is written does not
depend on the registry. -/
theorem storeFactory_effects (factory : Option StoreFactoryConfig) (desk : Desk) :
    let result := (storeFactory factory).outcome
    let after := desk.run (storeFactory factory)
    StoreEnding desk factory result after ∧
      (after.registry ≠ desk.registry →
        result = .ok true ∧ ∃ f ∈ factory, ∃ s, CallsFor f s) ∧
      (∀ f ∈ factory, ∀ s, CallsFor f s →
        result = .ok true ∧ after.registry = desk.registry.register s) ∧
      (∀ e, result = .error e → FailureKeeps desk factory e after) ∧
      ∀ registry : Registry,
        (Desk.run ⟨desk.sheet, registry⟩ (storeFactory factory)).sheet = after.sheet := by
  have ending := storeFactory_ends factory desk
  refine ⟨ending, ending.of_changed, fun f chosen s calls => ?_, fun e => ending.of_error,
    fun registry => rfl⟩
  obtain rfl := Option.mem_def.mp chosen
  exact ending.of_callsFor calls

/-- A factory that maps objects to tables of the data source `ds`. -/
def mappedStore (dialect : String) : StoreFactoryConfig :=
  ⟨some "CacheJdbcPojoStoreFactory", some ⟨some "ds", some dialect⟩, none, none⟩

/-- A store in a known dialect registers its source; in an unknown one it fails behind its bean. -/
theorem mappedStore_effects :
    (storeFactory (some (mappedStore "H2"))).outcome = .ok true ∧
      ((Desk.empty 2).run (storeFactory (some (mappedStore "H2")))).registry =
        ⟨[⟨"ds", "org.h2.jdbcx.JdbcDataSource"⟩]⟩ ∧
      (storeFactory (some (mappedStore "Dbase"))).outcome =
        .error (.unknownKind .dialect "Dbase") ∧
      FailureKeeps (Desk.empty 2) (some (mappedStore "Dbase")) (.unknownKind .dialect "Dbase")
        ((Desk.empty 2).run (storeFactory (some (mappedStore "Dbase")))) := by
  have calls : CallsFor (mappedStore "H2") ⟨"ds", "org.h2.jdbcx.JdbcDataSource"⟩ :=
    ⟨⟨some "ds", some "H2"⟩, "H2", ⟨rfl, rfl, rfl, by decide⟩, by decide, rfl, by decide⟩
  have failed : (storeFactory (some (mappedStore "Dbase"))).outcome =
      .error (.unknownKind .dialect "Dbase") := by decide
  obtain ⟨-, -, registers, -, -⟩ := storeFactory_effects (some (mappedStore "H2")) (Desk.empty 2)
  obtain ⟨-, -, -, keeps, -⟩ := storeFactory_effects (some (mappedStore "Dbase")) (Desk.empty 2)
  obtain ⟨succeeds, registered⟩ := registers _ rfl _ calls
  exact ⟨succeeds, registered, failed, keeps _ failed⟩

end GridBeans.Generation
