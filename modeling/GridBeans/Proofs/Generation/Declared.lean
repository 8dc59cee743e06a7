import GridBeans.Proofs.Generation.Beans
import Mathlib.Data.List.Find

/-!
# Declared data sources

The data sources that a document declares are those its caches refer to, the first one of each bean
id. So each reference has one declaration, and if several caches name one bean, the dialect of the
first of them decides on its class. A registry never loses or changes what it has, whatever is
written with it.
-/
namespace GridBeans.Generation

open GridBeans.Xml GridBeans.Config GridBeans.Catalogue

/-! ## Registries in use -/

/-- What is done with a registry while beans are written. -/
inductive RegistryCall where
  | register (s : DataSource)
  | storeFactory (factory : Option StoreFactoryConfig)
  | cache (c : CacheConfig)

/-- The registry after a call, whether the call succeeds or fails. -/
def Registry.afterCall (r : Registry) : RegistryCall → Registry
  | .register s => r.register s
  | .storeFactory factory => (storeFactory factory).registerIn r
  | .cache c => (cacheBean c).registerIn r

def Registry.afterCalls (r : Registry) (calls : List RegistryCall) : Registry :=
  calls.foldl Registry.afterCall r

/-- A call only adds to the registry, and only behind what is there. -/
theorem Registry.isPrefix_afterCall (r : Registry) (call : RegistryCall) :
    r.sources <+: (r.afterCall call).sources := by
  cases call with
  | register s => exact r.isPrefix_register s
  | storeFactory factory => exact r.isPrefix_registerAll _
  | cache c => exact r.isPrefix_registerAll _

theorem Registry.Distinct.afterCall {r : Registry} (distinct : r.Distinct) (call : RegistryCall) :
    (r.afterCall call).Distinct := by
  cases call with
  | register s => exact distinct.register s
  | storeFactory factory => exact distinct.registerAll _
  | cache c => exact distinct.registerAll _

theorem Registry.isPrefix_afterCalls (r : Registry) (calls : List RegistryCall) :
    r.sources <+: (r.afterCalls calls).sources := by
  induction calls generalizing r with
  | nil => exact List.prefix_rfl
  | cons call rest ih => exact (r.isPrefix_afterCall call).trans (ih (r.afterCall call))

theorem Registry.Distinct.afterCalls {r : Registry} (distinct : r.Distinct)
    (calls : List RegistryCall) : (r.afterCalls calls).Distinct := by
  induction calls generalizing r with
  | nil => exact distinct
  | cons call rest ih => exact ih (distinct.afterCall call)

/-! ## References and declarations -/

/-- The store of a cache without fault refers to a data source. -/
theorem exists_reference_of_cache {c : CacheConfig} {s : JdbcPojoStoreFactory}
    (stored : dialectStore? c = some s) (fine : cacheFaults c = []) :
    ∃ source, reference? s = some source := by
  obtain ⟨f, dialect, given, mapped, settings, named, filled⟩ := dialectStore?_eq_some stored
  simp only [cacheFaults, List.append_eq_nil_iff, given, storeFaults, storeSectionFaults, mapped,
    Option.toList_some, List.flatMap_singleton, if_true, settings] at fine
  obtain ⟨source, referred, -⟩ := exists_reference named filled fine.2.2.2
  exact ⟨source, referred⟩

theorem cacheFaults_of_mem {c : ClusterConfig} {clientNear : Option NearCacheConfig}
    (fine : faults c clientNear = []) {cache : CacheConfig} (mem : cache ∈ c.caches) :
    cacheFaults cache = [] := by
  rw [faults, List.append_eq_nil_iff] at fine
  exact List.flatMap_eq_nil_iff.mp fine.2 cache mem

/-- The cache has a store that refers to a bean. -/
def refersTo (beanId : String) (c : CacheConfig) : Bool :=
  (dialectStore? c).any fun s => s.dataSourceBean = some beanId

/-- A cache refers to a bean exactly if its store maps tables in a dialect through this bean. -/
theorem refersTo_iff (beanId : String) (c : CacheConfig) :
    refersTo beanId c = true ↔
      ∃ s, dialectStore? c = some s ∧ s.dataSourceBean = some beanId := by
  rw [refersTo]
  cases dialectStore? c with
  | none => simp
  | some s => simp

/-- Among caches without fault, the first reference to a bean is that of the first cache that refers
to it. -/
theorem find?_references {caches : List CacheConfig} (fine : ∀ k ∈ caches, cacheFaults k = [])
    (beanId : String) :
    (references caches).find? (fun s => s.beanId = beanId) =
      (caches.find? (refersTo beanId)).bind fun k => (dialectStore? k).bind reference? := by
  have same : ∀ k ∈ caches, Option.any (fun s : DataSource => decide (s.beanId = beanId))
      ((dialectStore? k).bind reference?) = refersTo beanId k := by
    intro k mem
    cases stored : dialectStore? k with
    | none => simp [refersTo, stored]
    | some s =>
      obtain ⟨source, referred⟩ := exists_reference_of_cache stored (fine k mem)
      simp [refersTo, stored, referred, (reference?_eq_some referred).1]
  rw [references, List.find?_filterMap, List.find?_congr same]

/-- A bean that a cache refers to is declared once, as the first cache that refers to it has it. -/
theorem declared_of_refersTo {c : ClusterConfig} {clientNear : Option NearCacheConfig}
    (fine : faults c clientNear = []) {cache : CacheConfig} (mem : cache ∈ c.caches)
    {beanId : String} (refers : refersTo beanId cache = true) :
    ∃ first firstStore source, c.caches.find? (refersTo beanId) = some first ∧
      dialectStore? first = some firstStore ∧ reference? firstStore = some source ∧
      (firstById (references c.caches)).filter (fun s => s.beanId = beanId) = [source] := by
  have each : ∀ k ∈ c.caches, cacheFaults k = [] := fun k => cacheFaults_of_mem fine
  obtain ⟨first, found⟩ := Option.isSome_iff_exists.mp
    (List.find?_isSome.mpr ⟨cache, mem, refers⟩)
  obtain ⟨firstStore, stored, -⟩ := (refersTo_iff beanId first).mp (List.find?_some found)
  obtain ⟨source, referred⟩ :=
    exists_reference_of_cache stored (each first (List.mem_of_find?_eq_some found))
  refine ⟨first, firstStore, source, found, stored, referred, filter_firstById ?_⟩
  rw [find?_references each, found, Option.bind_some, stored, Option.bind_some, referred]

/-- Different dialects have different data source classes, so a class tells its dialect. -/
theorem dataSourceClass?_injective {dialect other className : String}
    (found : dataSourceClass? dialect = some className)
    (otherFound : dataSourceClass? other = some className) : dialect = other := by
  have classesDiffer : ∀ d ∈ dialects, ∀ e ∈ dialects, d.dataSource = e.dataSource →
      d.short = e.short := by decide
  obtain ⟨d, hit, source⟩ := Option.map_eq_some_iff.mp found
  obtain ⟨e, otherHit, otherSource⟩ := Option.map_eq_some_iff.mp otherFound
  have named : d.short = dialect := by simpa using List.find?_some hit
  have otherNamed : e.short = other := by simpa using List.find?_some otherHit
  rw [← named, ← otherNamed]
  exact classesDiffer d (List.mem_of_find?_eq_some hit) e (List.mem_of_find?_eq_some otherHit)
    (source.trans otherSource.symm)

/-! ## Main results -/

/-- The data sources that a generated document declares ahead of its node, each once and in this
order, are the first ones of each bean id among those its caches refer to. Each reference of a cache
has one declaration, each declaration is referred to, stores of other kinds declare nothing, and no
call changes, removes or reorders what a registry has or makes two of its bean ids equal. -/
theorem declared_are_first_references :
    (∀ (c : ClusterConfig) (clientNear : Option NearCacheConfig) (options : DocumentOptions)
        (text : String), clusterDocument c clientNear options = .ok text →
      ∃ declared : List DataSource,
        declared = firstById (references c.caches) ∧
        (nodeBeans c clientNear).registered = declared ∧
        readDocument text =
          some (documentNode (preambleNodes options declared ++ nodeNodes c clientNear)) ∧
        (declared.map DataSource.beanId).Nodup ∧
        (∀ cache ∈ c.caches, ∀ s, dialectStore? cache = some s →
          ∃ source, reference? s = some source ∧
            declared.countP (fun d => d.beanId = source.beanId) = 1) ∧
        ∀ d ∈ declared, ∃ cache ∈ c.caches, refersTo d.beanId cache = true) ∧
    (∀ (c : CacheConfig) (f : StoreFactoryConfig), c.cacheStoreFactory = some f →
      f.kind ≠ some "CacheJdbcPojoStoreFactory" → (cacheBean c).sources = []) ∧
    ∀ (r : Registry) (calls : List RegistryCall),
      r.sources <+: (r.afterCalls calls).sources ∧
        (r.Distinct → (r.afterCalls calls).Distinct) := by
  refine ⟨?_, ?_, fun r calls => ⟨r.isPrefix_afterCalls calls, fun distinct =>
    distinct.afterCalls calls⟩⟩
  · intro c clientNear options text generated
    have fine := (clusterDocument_ok_iff c clientNear options).mp ⟨text, generated⟩
    refine ⟨_, rfl, registered_nodeBeans fine, clusterDocument_beans generated,
      firstById_distinct _, ?_, ?_⟩
    · intro cache mem s stored
      obtain ⟨source, referred⟩ :=
        exists_reference_of_cache stored (cacheFaults_of_mem fine mem)
      have refers : refersTo source.beanId cache = true :=
        (refersTo_iff _ _).mpr ⟨s, stored, (reference?_eq_some referred).1⟩
      obtain ⟨-, -, declaration, -, -, -, once⟩ := declared_of_refersTo fine mem refers
      exact ⟨source, referred, by rw [List.countP_eq_length_filter, once]; rfl⟩
    · intro d mem
      obtain ⟨cache, inside, referred⟩ :=
        List.mem_filterMap.mp ((firstById_sublist _).subset mem)
      obtain ⟨s, stored, same⟩ := Option.bind_eq_some_iff.mp referred
      exact ⟨cache, inside,
        (refersTo_iff _ _).mpr ⟨s, stored, (reference?_eq_some same).1⟩⟩
  · intro c f given other
    refine sources_cacheBean_eq_nil ?_
    rw [given, sources_storeFactory_of_kind other]

/-- A cache whose entries are kept in a table of a data source that the store itself names. -/
def blobCache : CacheConfig :=
  { CacheConfig.unset with
    cacheStoreFactory := some ⟨some "CacheJdbcBlobStoreFactory", none,
      some ⟨none, some "dsBlob", none, none, none, none, none, none⟩, none⟩ }

/-- Caches that share data sources: each source is declared once, at the place of its first
reference. -/
theorem sharingCluster_declares :
    (∃ (text : String) (declared : List DataSource),
      clusterDocument sharingCluster (some unsetNear) .default = .ok text ∧
        declared = firstById (references sharingCluster.caches) ∧
        readDocument text = some (documentNode
          (preambleNodes .default declared ++ nodeNodes sharingCluster (some unsetNear))) ∧
        ∀ d ∈ declared, ∃ cache ∈ sharingCluster.caches, refersTo d.beanId cache = true) ∧
      (cacheBean blobCache).sources = [] ∧
      (Registry.empty.afterCalls [.cache blobCache, .cache (.stored "ds" "H2"),
        .register ⟨"ds", "other"⟩]).Distinct := by
  obtain ⟨text, generated⟩ :=
    (clusterDocument_ok_iff sharingCluster (some unsetNear) .default).mpr faults_sharingCluster
  obtain ⟨documents, others, registries⟩ := declared_are_first_references
  obtain ⟨declared, first, -, reads, -, -, referred⟩ := documents _ _ _ _ generated
  exact ⟨⟨text, declared, generated, first, reads, referred⟩, others blobCache _ rfl (by decide),
    (registries _ _).2 List.nodup_nil⟩

/-- A bean that a cache refers to is declared once. Its class goes with the dialect of the first
cache that refers to it, which is the class for the dialect of the cache itself exactly if both name
one dialect. -/
theorem declared_class_of_first_reference (c : ClusterConfig) (clientNear : Option NearCacheConfig)
    (options : DocumentOptions) (text : String)
    (generated : clusterDocument c clientNear options = .ok text) (cache : CacheConfig)
    (mem : cache ∈ c.caches) (s : JdbcPojoStoreFactory) (stored : dialectStore? cache = some s) :
    ∃ beanId dialect first firstStore firstDialect className declared,
      s.dataSourceBean = some beanId ∧ s.dialect = some dialect ∧
      c.caches.find? (refersTo beanId) = some first ∧ dialectStore? first = some firstStore ∧
      firstStore.dialect = some firstDialect ∧ dataSourceClass? firstDialect = some className ∧
      readDocument text =
        some (documentNode (preambleNodes options declared ++ nodeNodes c clientNear)) ∧
      declared.filter (fun d => d.beanId = beanId) = [⟨beanId, className⟩] ∧
      (dataSourceClass? dialect = some className ↔ dialect = firstDialect) := by
  have fine := (clusterDocument_ok_iff c clientNear options).mp ⟨text, generated⟩
  obtain ⟨-, dialect, -, -, -, named, -⟩ := dialectStore?_eq_some stored
  obtain ⟨source, referred⟩ := exists_reference_of_cache stored (cacheFaults_of_mem fine mem)
  obtain ⟨bean, ownClass⟩ := reference?_eq_some referred
  rw [named, Option.bind_some] at ownClass
  have refers : refersTo source.beanId cache = true := (refersTo_iff _ _).mpr ⟨s, stored, bean⟩
  obtain ⟨first, firstStore, declaration, found, firstStored, firstReferred, once⟩ :=
    declared_of_refersTo fine mem refers
  obtain ⟨-, firstDialect, -, -, -, firstNamed, -⟩ := dialectStore?_eq_some firstStored
  obtain ⟨firstBean, firstClass⟩ := reference?_eq_some firstReferred
  rw [firstNamed, Option.bind_some] at firstClass
  have sameBean : declaration.beanId = source.beanId := by
    have kept : declaration ∈ (firstById (references c.caches)).filter
        (fun d => d.beanId = source.beanId) := by
      rw [once]
      exact List.mem_singleton_self declaration
    simpa using (List.mem_filter.mp kept).2
  refine ⟨source.beanId, dialect, first, firstStore, firstDialect, declaration.className,
    firstById (references c.caches), bean, named, found, firstStored, firstNamed, firstClass,
    clusterDocument_beans generated, ?_, ?_⟩
  · rw [once, ← sameBean]
  · constructor
    · exact fun ownFirst => dataSourceClass?_injective ownFirst firstClass
    · rintro rfl
      exact firstClass

/-- Two caches that name one bean and different dialects. -/
def contendingCluster : ClusterConfig :=
  { ClusterConfig.unset with caches := [.stored "ds" "H2", .stored "ds" "Oracle"] }

theorem faults_contendingCluster : faults contendingCluster none = [] := by
  decide

theorem contendingCluster_second :
    CacheConfig.stored "ds" "Oracle" ∈ contendingCluster.caches ∧
      dialectStore? (.stored "ds" "Oracle") = some ⟨some "ds", some "Oracle"⟩ :=
  ⟨by simp [contendingCluster], by decide⟩

/-- Two caches name one bean with different dialects; it is declared with the class for the first.
-/
theorem contendingCluster_declares :
    ∃ (text : String) (declared : List DataSource),
      clusterDocument contendingCluster none .default = .ok text ∧
      CacheConfig.stored "ds" "Oracle" ∈ contendingCluster.caches ∧
      dialectStore? (.stored "ds" "Oracle") = some ⟨some "ds", some "Oracle"⟩ ∧
      readDocument text = some (documentNode
        (preambleNodes .default declared ++ nodeNodes contendingCluster none)) ∧
      declared.filter (fun d => d.beanId = "ds") = [⟨"ds", "org.h2.jdbcx.JdbcDataSource"⟩] := by
  obtain ⟨text, generated⟩ :=
    (clusterDocument_ok_iff contendingCluster none .default).mpr faults_contendingCluster
  obtain ⟨mem, stored⟩ := contendingCluster_second
  obtain ⟨beanId, -, first, firstStore, firstDialect, className, declared, bean, -, found,
    firstStored, firstNamed, firstClass, reads, once, -⟩ :=
    declared_class_of_first_reference _ none .default text generated _ mem _ stored
  have firstFound : contendingCluster.caches.find? (refersTo "ds") = some (.stored "ds" "H2") := by
    decide
  have firstSettings : dialectStore? (.stored "ds" "H2") = some ⟨some "ds", some "H2"⟩ := by decide
  have known : dataSourceClass? "H2" = some "org.h2.jdbcx.JdbcDataSource" := by decide
  cases bean
  rw [firstFound] at found
  cases found
  rw [firstSettings] at firstStored
  cases firstStored
  cases firstNamed
  rw [known] at firstClass
  cases firstClass
  exact ⟨text, declared, generated, mem, stored, reads, once⟩

/-- A cache need not get the class that goes with its own dialect. -/
theorem declared_class_not_own :
    ¬ ∀ (c : ClusterConfig) (clientNear : Option NearCacheConfig) (options : DocumentOptions)
        (text : String), clusterDocument c clientNear options = .ok text →
      ∀ cache ∈ c.caches, ∀ s, dialectStore? cache = some s →
      ∀ declared, readDocument text =
          some (documentNode (preambleNodes options declared ++ nodeNodes c clientNear)) →
      ∀ d ∈ declared, s.dataSourceBean = some d.beanId →
        s.dialect.bind dataSourceClass? = some d.className := by
  intro always
  obtain ⟨text, generated⟩ :=
    (clusterDocument_ok_iff contendingCluster none .default).mpr faults_contendingCluster
  obtain ⟨mem, stored⟩ := contendingCluster_second
  have declared : firstById (references contendingCluster.caches) =
      [⟨"ds", "org.h2.jdbcx.JdbcDataSource"⟩] := by decide
  have own := always _ none .default text generated _ mem _ stored _
    (clusterDocument_beans generated) ⟨"ds", "org.h2.jdbcx.JdbcDataSource"⟩
    (declared ▸ List.mem_singleton_self _) rfl
  exact absurd own (by decide)

end GridBeans.Generation
