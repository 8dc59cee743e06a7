import GridBeans.Proofs.Config.Unset
import GridBeans.Proofs.Generation.Faults
import GridBeans.Proofs.Generation.Registry

/-!
# Data sources of a description

A cache refers to a data source if its store maps objects to tables and names a dialect. Nothing
else that is written for a node registers any data source, so a node that has no fault registers
those its caches refer to, cache by cache.
-/
namespace GridBeans.Generation

open GridBeans.Markup GridBeans.Config GridBeans.Catalogue

/-! ## What caches refer to -/

/-- The settings of the store of a cache, if the store maps objects to tables and names a
dialect. -/
def dialectStore? (c : CacheConfig) : Option JdbcPojoStoreFactory :=
  match c.cacheStoreFactory with
  | none => none
  | some f =>
    if f.kind = some "CacheJdbcPojoStoreFactory" then
      f.jdbcPojo.filter fun s => s.dialect.isSome && s.dialect ≠ some ""
    else none

/-- The data source that a store refers to: its bean, of the class that goes with its dialect. -/
def reference? (s : JdbcPojoStoreFactory) : Option DataSource :=
  match s.dataSourceBean, s.dialect.bind dataSourceClass? with
  | some beanId, some className => some ⟨beanId, className⟩
  | _, _ => none

/-- The data sources that caches refer to, cache by cache and with repetitions. -/
def references (caches : List CacheConfig) : List DataSource :=
  caches.filterMap fun c => (dialectStore? c).bind reference?

/-- A store with a dialect maps tables, has its section, and names a dialect that is not empty. -/
theorem dialectStore?_eq_some {c : CacheConfig} {s : JdbcPojoStoreFactory}
    (stored : dialectStore? c = some s) :
    ∃ f dialect, c.cacheStoreFactory = some f ∧ f.kind = some "CacheJdbcPojoStoreFactory" ∧
      f.jdbcPojo = some s ∧ s.dialect = some dialect ∧ dialect ≠ "" := by
  unfold dialectStore? at stored
  split at stored
  · cases stored
  · rename_i f given
    split at stored
    · rename_i mapped
      simp only [Option.filter_eq_some_iff, Bool.and_eq_true, decide_eq_true_eq,
        Option.isSome_iff_exists] at stored
      obtain ⟨settings, ⟨dialect, named⟩, filled⟩ := stored
      refine ⟨f, dialect, given, mapped, settings, named, ?_⟩
      rintro rfl
      exact filled named
    · cases stored

/-- A reference is to the bean that the store names, with the class that goes with its dialect. -/
theorem reference?_eq_some {s : JdbcPojoStoreFactory} {source : DataSource}
    (referred : reference? s = some source) :
    s.dataSourceBean = some source.beanId ∧
      s.dialect.bind dataSourceClass? = some source.className := by
  unfold reference? at referred
  split at referred
  · rename_i beanId className bean found
    rw [← Option.some.inj referred]
    exact ⟨bean, found⟩
  · cases referred

/-! ## Scripts -/

namespace Script

variable {α β : Type}

@[simp] theorem sources_pure (a : α) : (pure a : Script α).sources = [] := rfl

@[simp] theorem sources_ofExcept (x : Except Failure α) : (ofExcept x).sources = [] := rfl

@[simp] theorem sources_line (piece : Piece) : (line piece).sources = [] := rfl

@[simp] theorem sources_blank : blank.sources = [] := rfl

@[simp] theorem sources_requestBlank : requestBlank.sources = [] := rfl

@[simp] theorem sources_sectionStart : sectionStart.sources = [] := rfl

/-- A script registers nothing if no part of it that is reached does. -/
@[simp] theorem sources_bind_eq_nil (x : Script α) (f : α → Script β) :
    (x >>= f).sources = [] ↔
      x.sources = [] ∧ ∀ a, x.outcome = .ok a → (f a).sources = [] := by
  rw [sources_bind, List.append_eq_nil_iff]
  cases x.outcome with
  | error e => simp
  | ok a => simp

/-- Of two scripts that do not depend on each other, the second counts if the first succeeds. -/
theorem sources_next (x : Script α) (y : Script β) :
    (x >>= fun _ => y).sources = x.sources ++ (if x.failure? = none then y.sources else []) := by
  rw [sources_bind, failure?]
  cases x.outcome with
  | error e => simp
  | ok a => simp

@[simp] theorem sources_next_pure (x : Script α) (b : β) :
    (x >>= fun _ => pure b).sources = x.sources := by
  rw [sources_bind]
  cases x.outcome with
  | error e => simp
  | ok a => simp

theorem sources_ofExcept_bind (x : Except Failure α) (f : α → Script β) :
    (ofExcept x >>= f).sources = (match x with
      | .ok a => (f a).sources
      | .error _ => []) := by
  rw [sources_bind]
  rfl

attribute [simp] sources_block

@[simp] theorem sources_discard (x : Script α) : (discard x).sources = x.sources :=
  sources_next_pure x ()

@[simp] theorem sources_onlyIf (condition : Prop) [Decidable condition] (x : Script Unit) :
    (onlyIf condition x).sources = if condition then x.sources else [] := by
  rw [onlyIf]
  split
  · rfl
  · rfl

theorem sources_forSome_eq_nil {value : Option α} {f : α → Script Unit}
    (silent : ∀ a, (f a).sources = []) : (forSome value f).sources = [] := by
  cases value with
  | none => rfl
  | some a => exact silent a

theorem sources_forEach_eq_nil {items : List α} {f : α → Script Unit}
    (silent : ∀ a, (f a).sources = []) : (forEach items f).sources = [] := by
  induction items with
  | nil => rfl
  | cons a rest ih => simp [forEach, silent a, ih]

theorem sources_forEachSpaced_eq_nil {items : List α} {f : α → Script Unit}
    (silent : ∀ a, (f a).sources = []) : (forEachSpaced items f).sources = [] := by
  induction items with
  | nil => rfl
  | cons a rest ih =>
    cases rest with
    | nil => exact silent a
    | cons b rest => simp [forEachSpaced, silent a, ih]

/-- A list of scripts that all succeed registers what each of them does. -/
theorem sources_forEachSpaced {items : List α} {f : α → Script Unit}
    (succeed : ∀ a ∈ items, (f a).failure? = none) :
    (forEachSpaced items f).sources = items.flatMap fun a => (f a).sources := by
  induction items with
  | nil => rfl
  | cons a rest ih =>
    rw [List.forall_mem_cons] at succeed
    cases rest with
    | nil => simp [forEachSpaced]
    | cons b rest =>
      rw [List.flatMap_cons, ← ih succeed.2]
      show (f a >>= fun _ => blank >>= fun _ => forEachSpaced (b :: rest) f).sources = _
      simp [sources_next, succeed.1]

end Script

/-! ## Parts that register nothing -/

open Script

@[simp] theorem sources_property {α : Type} [PropertyValue α] (name : String) (value : Option α) :
    (property name value).sources = [] := by
  cases value with
  | none => rfl
  | some a => rfl

@[simp] theorem sources_propertyBlock (name : String) (body : Script Unit) :
    (propertyBlock name body).sources = body.sources :=
  sources_block _ _ body

@[simp] theorem sources_beanBlock (className : String) (body : Script Unit) :
    (beanBlock className body).sources = body.sources :=
  sources_block _ _ body

@[simp] theorem sources_classProperty (name : String) (className : Option String) :
    (classProperty name className).sources = [] :=
  sources_property name _

@[simp] theorem sources_rowsProperty {α : Type} (name container : String) (items : List α)
    (row : α → Piece) : (rowsProperty name container items row).sources = [] := by
  have rows : (forEach items fun a => line (row a)).sources = [] :=
    sources_forEach_eq_nil fun _ => rfl
  rw [rowsProperty]
  split
  · rfl
  · simp [rows]

@[simp] theorem sources_listProperty (name container : String) (items : List String) :
    (listProperty name container items).sources = [] :=
  sources_rowsProperty name container items valueLeaf

@[simp] theorem sources_writeValue (f : FieldShape) (v : Json.Value) :
    (f.writeValue v).sources = [] := by
  unfold FieldShape.writeValue
  cases f.kind with
  | scalar => simp
  | list => simp
  | classNameRef =>
    cases v with
    | string name =>
      simp only
      split
      · rfl
      · simp
    | null | bool | number | array | object => rfl
  | propertyBag => simp

@[simp] theorem sources_write (f : FieldShape) (members : List (String × Json.Value)) :
    (f.write members).sources = [] := by
  unfold FieldShape.write
  split
  · split
    · simp
    · rfl
  · rfl

@[simp] theorem sources_shapedBean (name : String) (shape : BeanShape)
    (members : List (String × Json.Value)) (force : Bool) :
    (shapedBean name shape members force).sources = [] := by
  have fields : (forEach shape.fields fun f => f.write members).sources = [] :=
    sources_forEach_eq_nil fun f => sources_write f members
  unfold shapedBean
  split
  · simp [fields]
  · split
    · simp
    · rfl

@[simp] theorem sources_evictionPolicy (policy : Option EvictionPolicyConfig)
    (propertyName : String) : (evictionPolicy policy propertyName).sources = [] := by
  unfold evictionPolicy
  split
  · rfl
  · split
    · rfl
    · simp

@[simp] theorem sources_marshaller (config : Option MarshallerConfig) :
    (marshaller config).sources = [] := by
  unfold marshaller
  split
  · rfl
  · split
    · rfl
    · simp

@[simp] theorem sources_swapSpace (config : Option SwapSpaceSpiConfig) :
    (swapSpace config).sources = [] := by
  unfold swapSpace
  split
  · rfl
  · split
    · rfl
    · split
      · simp
      · rfl

@[simp] theorem sources_chosenPart (part : Script Bool) :
    (chosenPart part).sources = part.sources := by
  rw [chosenPart, sources_bind]
  cases part.outcome with
  | error e => simp
  | ok chosen => simp

@[simp] theorem sources_nearCacheBean (id : Option String) (near : Option NearCacheConfig) :
    (nearCacheBean id near).sources = [] := by
  have properties : ∀ n : NearCacheConfig, (nearProperties n).sources = [] := by
    intro n
    simp [nearProperties]
  simp [nearCacheBean, sources_forSome_eq_nil properties]

@[simp] theorem sources_finderBean (finder : IpFinder) : finder.bean.sources = [] := by
  cases finder with
  | vm v =>
    simp only [IpFinder.bean]
    split
    · rfl
    · simp
  | s3 s =>
    simp only [IpFinder.bean, sources_beanBlock]
    split
    · rfl
    · rfl
  | sharedFs f =>
    simp only [IpFinder.bean]
    split
    · simp
    · rfl
  | multicast | cloud | googleStorage | jdbc => simp [IpFinder.bean]

/-- Discovery registers no data source, not even one that keeps addresses in a database. -/
@[simp] theorem sources_discovery (d : DiscoveryConfig) : (discovery d).sources = [] := by
  simp [discovery]

@[simp] theorem sources_eventTypes (names : List String) : (eventTypes names).sources = [] := by
  have group : ∀ g : EventGroup, (groupEvents g).sources = [] := by
    intro g
    have events : (forEach g.events fun event => line (eventConstant event)).sources = [] :=
      sources_forEach_eq_nil fun _ => rfl
    simp [groupEvents, events]
  unfold eventTypes
  split
  · rfl
  · simp only [sources_bind_eq_nil, sources_ofExcept, sources_sectionStart, sources_requestBlank,
      sources_propertyBlock, true_and, implies_true, and_true]
    intro groups _ _ _
    split
    · rfl
    · simp [sources_forEachSpaced_eq_nil group]

@[simp] theorem sources_containerProperty {α : Type} (name container : String) (items : List α)
    (each : α → Script Unit) (silent : ∀ a, (each a).sources = []) :
    (containerProperty name container items each).sources = [] := by
  rw [containerProperty]
  split
  · rfl
  · simp [sources_forEach_eq_nil silent]

@[simp] theorem sources_queryFields (name : String) (fields : List QueryField) :
    (queryFields name fields).sources = [] :=
  sources_containerProperty _ _ _ _ fun _ => sources_line _

@[simp] theorem sources_typeEntry (t : TypeMetadata) : (typeEntry t).sources = [] := by
  have column : ∀ f : DatabaseField, (databaseField f).sources = [] := by
    intro f
    simp [databaseField]
  have group : ∀ g : FieldGroup, (fieldGroup g).sources = [] := by
    intro g
    have field : ∀ f : GroupField, (groupField f).sources = [] := by
      intro f
      simp [groupField]
    simp [fieldGroup, sources_forEach_eq_nil field]
  simp [typeEntry, databaseSide, querySide, databaseFields, fieldGroups, column, group]

@[simp] theorem sources_typeEntries (query store : List TypeMetadata) :
    (typeEntries query store).sources = [] := by
  rw [typeEntries]
  split
  · rfl
  · simp [sources_forEach_eq_nil sources_typeEntry]

/-! ## Stores -/

/-- A store without fault that names a dialect refers to a data source. -/
theorem exists_reference {s : JdbcPojoStoreFactory} {dialect : String}
    (named : s.dialect = some dialect) (given : dialect ≠ "") (fine : dialectFaults s = []) :
    ∃ source, reference? s = some source ∧ dataSourceOf s = .ok (some source) := by
  simp only [dialectFaults, named, if_neg given, List.append_eq_nil_iff] at fine
  obtain ⟨known, bean⟩ := fine
  rcases @find_cases _ dialects Dialect.short _ rfl .dialect dialect with
    ⟨d, hit, -, -⟩ | ⟨-, fault⟩
  · have found : dataSourceClass? dialect = some d.dataSource := by
      rw [dataSourceClass?, hit, Option.map_some]
    cases beanGiven : s.dataSourceBean with
    | none => simp [beanGiven] at bean
    | some beanId =>
      have filled : beanId ≠ "" := by
        rintro rfl
        simp [beanGiven] at bean
      refine ⟨⟨beanId, d.dataSource⟩, ?_, ?_⟩
      · simp [reference?, beanGiven, named, found]
      · simp [dataSourceOf, named, beanGiven, nonEmpty?_some, given, filled, found]
  · rw [fault] at known
    cases known

/-- A store without fault needs the data source it refers to, if it names a dialect. -/
theorem dataSourceOf_of_fine {s : JdbcPojoStoreFactory} (fine : dialectFaults s = []) :
    dataSourceOf s = .ok (((some s).filter fun s => s.dialect.isSome && s.dialect ≠ some "").bind
      reference?) := by
  cases named : s.dialect with
  | none => simp [Option.filter_some, dataSourceOf, named, Text.nonEmpty?]
  | some dialect =>
    by_cases empty : dialect = ""
    · simp [Option.filter_some, dataSourceOf, named, empty, Text.nonEmpty?]
    · obtain ⟨source, referred, needed⟩ := exists_reference named empty fine
      simp [Option.filter_some, named, empty, referred, needed]

/-- A store that maps objects to tables registers what its dialect needs, once its bean is
written. -/
theorem sources_jdbcPojo {f : StoreFactoryConfig} {s : JdbcPojoStoreFactory}
    (given : f.jdbcPojo = some s) :
    (storeFactoryOf .jdbcPojo f).sources = (match dataSourceOf s with
      | .ok source => source.toList
      | .error _ => []) := by
  have registers : (Script.ofExcept (dataSourceOf s) >>= fun source =>
      Script.forSome source Script.register).sources = (match dataSourceOf s with
        | .ok source => source.toList
        | .error _ => []) := by
    rw [sources_ofExcept_bind]
    cases dataSourceOf s with
    | error e => rfl
    | ok source =>
      cases source with
      | none => rfl
      | some source => rfl
  rw [storeFactoryOf, given, ← registers]
  show (storeFactoryBean .jdbcPojo s >>= fun _ => _).sources = _
  rw [sources_next, failure?_storeFactoryBean, if_pos rfl, storeFactoryBean, sources_shapedBean,
    List.nil_append]

/-- Only stores that map objects to tables register any data source. -/
theorem sources_storeFactory_of_kind {f : StoreFactoryConfig}
    (other : f.kind ≠ some "CacheJdbcPojoStoreFactory") : (storeFactory (some f)).sources = [] := by
  rw [storeFactory]
  split
  · rfl
  · rename_i name chosen
    have named : name ≠ "CacheJdbcPojoStoreFactory" := by
      rintro rfl
      rcases nonEmpty?_cases .storeFactory storeKinds f.kind with
        ⟨skipped, -⟩ | ⟨kind, given, found, -⟩
      · rw [skipped] at chosen
        cases chosen
      · rw [found, Option.some.injEq] at chosen
        exact other (chosen ▸ given)
    have names : StoreKind.all.map StoreKind.name = storeKinds := rfl
    rw [sources_ofExcept_bind, StoreKind.ofName]
    rcases find_cases names .storeFactory name with ⟨k, hit, same, -⟩ | ⟨missing, -⟩
    · rw [hit]
      cases k with
      | jdbcPojo => exact absurd same.symm named
      | jdbcBlob | hibernateBlob => simp [storeFactoryOf, storeFactoryBean]
    · rw [missing]

/-- A store without fault registers the data source it refers to, if any. -/
theorem sources_storeFactory {c : CacheConfig} (fine : storeFaults c.cacheStoreFactory = []) :
    (storeFactory c.cacheStoreFactory).sources = ((dialectStore? c).bind reference?).toList := by
  cases stored : c.cacheStoreFactory with
  | none => simp [storeFactory, dialectStore?, stored]
  | some f =>
    by_cases mapped : f.kind = some "CacheJdbcPojoStoreFactory"
    · have found : StoreKind.ofName "CacheJdbcPojoStoreFactory" = .ok .jdbcPojo := by decide
      have filled : Text.nonEmpty? f.kind = some "CacheJdbcPojoStoreFactory" := by
        rw [mapped]
        decide
      have chosen : (storeFactory (some f)).sources = (storeFactoryOf .jdbcPojo f).sources := by
        rw [storeFactory, filled, sources_ofExcept_bind, found]
        exact sources_next_pure _ true
      simp only [stored, storeFaults, storeSectionFaults, mapped, Option.toList_some,
        List.flatMap_singleton, if_true, List.append_eq_nil_iff] at fine
      obtain ⟨-, sectionGiven, dialectFine⟩ := fine
      cases given : f.jdbcPojo with
      | none => simp [given, sectionFaults] at sectionGiven
      | some s =>
        have fineStore : dialectFaults s = [] := by simpa [given] using dialectFine
        rw [chosen, sources_jdbcPojo given, dataSourceOf_of_fine fineStore]
        simp [dialectStore?, stored, mapped, given]
    · rw [sources_storeFactory_of_kind mapped]
      simp [dialectStore?, stored, mapped]

/-! ## Caches and nodes -/

@[simp] theorem sources_cacheNear (c : CacheConfig) : (cacheNear c).sources = [] := by
  simp [cacheNear]

/-- Only its store makes a cache register anything. -/
theorem sources_cacheBean_eq_nil {c : CacheConfig}
    (silent : (storeFactory c.cacheStoreFactory).sources = []) : (cacheBean c).sources = [] := by
  simp [cacheBean, cacheProperties, cacheLayout, cacheMemory, cacheQueries, cacheRebalance,
    cacheThrough, cacheLocking, cacheWriteBehind, cacheStatistics, silent]

/-- A cache without fault registers the data source it refers to, if any. -/
theorem sources_cacheBean {c : CacheConfig} (fine : cacheFaults c = []) :
    (cacheBean c).sources = ((dialectStore? c).bind reference?).toList := by
  simp only [cacheFaults, List.append_eq_nil_iff] at fine
  obtain ⟨⟨eviction, near⟩, stored⟩ := fine
  have evicts : (evictionPolicy c.evictionPolicy "evictionPolicy").failure? = none := by
    rw [failure?_evictionPolicy, eviction, List.head?_nil]
  have nears : (cacheNear c).failure? = none := by
    rw [failure?_cacheNear, near, List.head?_nil]
  rw [← sources_storeFactory stored]
  simp [cacheBean, cacheProperties, sources_next, cacheLayout, cacheMemory, cacheQueries,
    cacheRebalance, cacheThrough, cacheLocking, cacheWriteBehind, cacheStatistics, evicts, nears]

/-- Caches without fault register what they refer to. -/
theorem sources_nodeCaches {caches : List CacheConfig} (fine : caches.flatMap cacheFaults = []) :
    (nodeCaches caches).sources = references caches := by
  have each : ∀ k ∈ caches, cacheFaults k = [] := List.flatMap_eq_nil_iff.mp fine
  have succeed : ∀ k ∈ caches, (cacheBean k).failure? = none := by
    intro k mem
    rw [failure?_cacheBean, each k mem, List.head?_nil]
  have registered : (forEachSpaced caches cacheBean).sources = references caches := by
    rw [sources_forEachSpaced succeed, references, List.filterMap_eq_flatMap_toList]
    exact List.flatMap_congr fun k mem => sources_cacheBean (each k mem)
  rw [nodeCaches]
  split
  · rename_i empty
    rw [List.isEmpty_iff.mp empty]
    rfl
  · simp [sources_next, registered]

@[simp] theorem sources_nodeDiscovery (c : ClusterConfig) : (nodeDiscovery c).sources = [] :=
  sources_forSome_eq_nil fun d => by simp

@[simp] theorem sources_clientNearBean (clientNear : Option NearCacheConfig) :
    (clientNearBean clientNear).sources = [] :=
  sources_forSome_eq_nil fun near => by simp

/-- The beans of a node without fault register what its caches refer to, whether or not the node is
a client. -/
theorem sources_nodeBeans {c : ClusterConfig} {clientNear : Option NearCacheConfig}
    (fine : faults c clientNear = []) :
    (nodeBeans c clientNear).sources = references c.caches := by
  simp only [faults, List.append_eq_nil_iff] at fine
  obtain ⟨⟨⟨⟨⟨near, discovery⟩, events⟩, marshals⟩, swaps⟩, cached⟩ := fine
  have reached : (clientNearBean clientNear).failure? = none := by
    rw [failure?_clientNearBean, near, List.head?_nil]
  have discovers : (nodeDiscovery c).failure? = none := by
    rw [failure?_nodeDiscovery, discovery, List.head?_nil]
  simp [nodeBeans, nodeProperties, sources_next, clientMode, nodeNetwork, nodeMarshalling,
    nodeMetrics, nodeClassLoading, nodeTime, nodeThreadPools, failure?_chosenPart,
    failure?_eventTypes, failure?_marshaller, failure?_swapSpace, reached, discovers, events,
    marshals, swaps, sources_nodeCaches cached]

/-- A node without fault declares the first data source of each bean id that its caches refer
to. -/
theorem registered_nodeBeans {c : ClusterConfig} {clientNear : Option NearCacheConfig}
    (fine : faults c clientNear = []) :
    (nodeBeans c clientNear).registered = firstById (references c.caches) := by
  rw [Script.registered, Script.registerIn, sources_nodeBeans fine, Registry.registerAll_empty]

/-- A cluster with caches that share a data source whose name looks like markup, and a cache that
needs none. -/
def sharingCluster : ClusterConfig :=
  { ClusterConfig.unset with
    caches := [.stored "a&\"b<" "H2", .unset, .stored "a&\"b<" "H2", .stored "dsOracle" "Oracle"] }

def unsetNear : NearCacheConfig := ⟨none, none⟩

theorem faults_sharingCluster : faults sharingCluster (some unsetNear) = [] := by
  decide

example : firstById (references sharingCluster.caches) =
    [⟨"a&\"b<", "org.h2.jdbcx.JdbcDataSource"⟩,
      ⟨"dsOracle", "oracle.jdbc.pool.OracleDataSource"⟩] := by
  decide

end GridBeans.Generation
