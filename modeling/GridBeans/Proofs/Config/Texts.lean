import GridBeans.Config.Cluster
import GridBeans.Generation.Document
import GridBeans.Proofs.Markup.Written

/-!
# Texts of a description

All the texts that a description holds, wherever they stand in it. A description is spelled over a
class of characters if all its texts are.
-/
namespace GridBeans.Config

open GridBeans.Markup

/-- A type whose values hold texts. -/
class HasTexts (α : Type) where
  texts : α → List String

open HasTexts (texts)

instance : HasTexts String := ⟨fun text => [text]⟩

instance : HasTexts Int := ⟨fun _ => []⟩

instance : HasTexts Bool := ⟨fun _ => []⟩

instance : HasTexts CacheMode := ⟨fun _ => []⟩

instance {α : Type} [HasTexts α] : HasTexts (Option α) := ⟨fun value => value.toList.flatMap texts⟩

instance {α : Type} [HasTexts α] : HasTexts (List α) := ⟨fun items => items.flatMap texts⟩

/-- Every text of the value is over the class. -/
def Spelled {α : Type} [HasTexts α] (P : Char → Prop) (a : α) : Prop :=
  ∀ text ∈ texts a, Over P text

/-! ## Records -/

instance : HasTexts MulticastIpFinder := ⟨fun m => texts m.multicastGroup ++ texts m.localAddress⟩

instance : HasTexts VmIpFinder := ⟨fun v => texts v.addresses⟩

instance : HasTexts S3IpFinder := ⟨fun s => texts s.bucketName⟩

instance : HasTexts CloudIpFinder where
  texts c :=
    texts c.credential ++ texts c.credentialPath ++ texts c.identity ++ texts c.provider ++
      texts c.regions ++ texts c.zones

instance : HasTexts GoogleStorageIpFinder where
  texts g :=
    texts g.projectName ++ texts g.bucketName ++ texts g.serviceAccountP12FilePath ++
      texts g.serviceAccountId

instance : HasTexts SharedFsIpFinder := ⟨fun f => texts f.path⟩

instance : HasTexts DiscoveryConfig where
  texts d :=
    texts d.kind ++ texts d.multicast ++ texts d.vm ++ texts d.s3 ++ texts d.cloud ++
      texts d.googleStorage ++ texts d.sharedFs

instance : HasTexts AtomicConfiguration := ⟨fun a => texts a.cacheMode⟩

instance : HasTexts TransactionConfiguration where
  texts t := texts t.defaultTxConcurrency ++ texts t.transactionIsolation

instance : HasTexts OptimizedMarshaller := ⟨fun _ => []⟩

instance : HasTexts JdkMarshaller := ⟨fun _ => []⟩

instance : HasTexts MarshallerConfig where
  texts m := texts m.kind ++ texts m.optimized ++ texts m.jdk

instance : HasTexts FileSwapSpaceSpi := ⟨fun s => texts s.baseDirectory⟩

instance : HasTexts SwapSpaceSpiConfig := ⟨fun s => texts s.kind ++ texts s.file⟩

instance : HasTexts EvictionPolicyFields := ⟨fun _ => []⟩

instance : HasTexts EvictionPolicyConfig where
  texts p := texts p.kind ++ texts p.lru ++ texts p.rnd ++ texts p.fifo ++ texts p.sorted

instance : HasTexts NearCacheConfig := ⟨fun n => texts n.nearEvictionPolicy⟩

instance : HasTexts JdbcPojoStoreFactory := ⟨fun f => texts f.dataSourceBean ++ texts f.dialect⟩

instance : HasTexts JdbcBlobStoreFactory where
  texts f :=
    texts f.user ++ texts f.dataSourceBean ++ texts f.createTableQuery ++ texts f.loadQuery ++
      texts f.insertQuery ++ texts f.updateQuery ++ texts f.deleteQuery

instance : HasTexts HibernateBlobStoreFactory := ⟨fun f => texts f.hibernateProperties⟩

instance : HasTexts StoreFactoryConfig where
  texts f := texts f.kind ++ texts f.jdbcPojo ++ texts f.jdbcBlob ++ texts f.hibernateBlob

instance : HasTexts DatabaseField where
  texts f := texts f.databaseName ++ texts f.databaseType ++ texts f.javaName ++ texts f.javaType

instance : HasTexts QueryField := ⟨fun f => texts f.name ++ texts f.className⟩

instance : HasTexts GroupField := ⟨fun f => texts f.name ++ texts f.className⟩

instance : HasTexts FieldGroup := ⟨fun g => texts g.name ++ texts g.fields⟩

instance : HasTexts TypeMetadata where
  texts t :=
    texts t.name ++ texts t.keyType ++ texts t.valueType ++ texts t.databaseSchema ++
      texts t.databaseTable ++ texts t.keyFields ++ texts t.valueFields ++ texts t.queryFields ++
      texts t.ascendingFields ++ texts t.descendingFields ++ texts t.textFields ++ texts t.groups

instance : HasTexts IndexedType := ⟨fun t => texts t.keyClass ++ texts t.valueClass⟩

instance : HasTexts CacheConfig where
  texts c :=
    texts c.name ++ texts c.atomicityMode ++ texts c.memoryMode ++ texts c.evictionPolicy ++
      texts c.nearConfiguration ++ texts c.indexedTypes ++ texts c.sqlFunctionClasses ++
      texts c.rebalanceMode ++ texts c.cacheStoreFactory ++
      texts c.transactionManagerLookupClassName ++ texts c.queryMetadata ++ texts c.storeMetadata

instance : HasTexts ClusterConfig where
  texts c :=
    texts c.name ++ texts c.discovery ++ texts c.atomicConfiguration ++ texts c.deploymentMode ++
      texts c.includeEventTypes ++ texts c.marshaller ++
      texts c.peerClassLoadingLocalClassPathExclude ++ texts c.swapSpaceSpi ++
      texts c.transactionConfiguration ++ texts c.caches

instance : HasTexts Generation.DocumentOptions where
  texts o := texts o.propertiesLocation ++ texts o.headerComment

/-! ## Spelling of parts -/

variable {P : Char → Prop}

/-- Every value is spelled over all characters, so a statement for any class has its plain form as
an instance. -/
theorem spelled_everything {α : Type} [HasTexts α] (a : α) : Spelled (fun _ => True) a :=
  fun _ _ _ _ => trivial

@[simp] theorem spelled_text (text : String) : Spelled P text ↔ Over P text := by
  simp [Spelled, texts]

@[simp] theorem spelled_bool (b : Bool) : Spelled P b := by simp [Spelled, texts]

@[simp] theorem spelled_cacheMode (mode : CacheMode) : Spelled P mode := by
  simp [Spelled, texts]

@[simp] theorem spelled_none {α : Type} [HasTexts α] : Spelled P (none : Option α) := by
  simp [Spelled, texts]

@[simp] theorem spelled_some {α : Type} [HasTexts α] (a : α) :
    Spelled P (some a) ↔ Spelled P a := by
  simp [Spelled, texts]

@[simp] theorem spelled_list {α : Type} [HasTexts α] (items : List α) :
    Spelled P items ↔ ∀ a ∈ items, Spelled P a := by
  simp only [Spelled, texts, List.mem_flatMap]
  constructor
  · intro all a mem text inside
    exact all text ⟨a, mem, inside⟩
  · rintro each text ⟨a, mem, inside⟩
    exact each a mem text inside

theorem spelled_texts (items : List String) :
    Spelled P items ↔ ∀ text ∈ items, Over P text := by
  simp only [spelled_list, spelled_text]

theorem spelled_option {α : Type} [HasTexts α] {value : Option α} :
    Spelled P value ↔ ∀ a, value = some a → Spelled P a := by
  cases value with
  | none => simp
  | some a => simp

/-! ## Spelling of records -/

theorem spelled_multicastIpFinder (m : MulticastIpFinder) :
    Spelled P m ↔ Spelled P m.multicastGroup ∧ Spelled P m.localAddress := by
  simp only [Spelled, texts, List.forall_mem_append]

theorem spelled_cloudIpFinder (c : CloudIpFinder) :
    Spelled P c ↔
      Spelled P c.credential ∧ Spelled P c.credentialPath ∧ Spelled P c.identity ∧
        Spelled P c.provider ∧ Spelled P c.regions ∧ Spelled P c.zones := by
  simp only [Spelled, texts, List.forall_mem_append, and_assoc]

theorem spelled_googleStorageIpFinder (g : GoogleStorageIpFinder) :
    Spelled P g ↔
      Spelled P g.projectName ∧ Spelled P g.bucketName ∧ Spelled P g.serviceAccountP12FilePath ∧
        Spelled P g.serviceAccountId := by
  simp only [Spelled, texts, List.forall_mem_append, and_assoc]

/-- The texts of a discovery section are those of all its finders, the chosen one and the others
alike. -/
theorem spelled_discoveryConfig (d : DiscoveryConfig) :
    Spelled P d ↔
      Spelled P d.kind ∧ Spelled P d.multicast ∧ Spelled P d.vm ∧ Spelled P d.s3 ∧
        Spelled P d.cloud ∧ Spelled P d.googleStorage ∧ Spelled P d.sharedFs := by
  simp only [Spelled, texts, List.forall_mem_append, and_assoc]

theorem spelled_transactionConfiguration (t : TransactionConfiguration) :
    Spelled P t ↔ Spelled P t.defaultTxConcurrency ∧ Spelled P t.transactionIsolation := by
  simp only [Spelled, texts, List.forall_mem_append]

theorem spelled_marshallerConfig (m : MarshallerConfig) :
    Spelled P m ↔ Spelled P m.kind ∧ Spelled P m.optimized ∧ Spelled P m.jdk := by
  simp only [Spelled, texts, List.forall_mem_append, and_assoc]

theorem spelled_evictionPolicyConfig (p : EvictionPolicyConfig) :
    Spelled P p ↔
      Spelled P p.kind ∧ Spelled P p.lru ∧ Spelled P p.rnd ∧ Spelled P p.fifo ∧
        Spelled P p.sorted := by
  simp only [Spelled, texts, List.forall_mem_append, and_assoc]

theorem spelled_swapSpaceSpiConfig (s : SwapSpaceSpiConfig) :
    Spelled P s ↔ Spelled P s.kind ∧ Spelled P s.file := by
  simp only [Spelled, texts, List.forall_mem_append]

theorem spelled_jdbcPojoStoreFactory (f : JdbcPojoStoreFactory) :
    Spelled P f ↔ Spelled P f.dataSourceBean ∧ Spelled P f.dialect := by
  simp only [Spelled, texts, List.forall_mem_append]

theorem spelled_jdbcBlobStoreFactory (f : JdbcBlobStoreFactory) :
    Spelled P f ↔
      Spelled P f.user ∧ Spelled P f.dataSourceBean ∧ Spelled P f.createTableQuery ∧
        Spelled P f.loadQuery ∧ Spelled P f.insertQuery ∧ Spelled P f.updateQuery ∧
        Spelled P f.deleteQuery := by
  simp only [Spelled, texts, List.forall_mem_append, and_assoc]

theorem spelled_storeFactoryConfig (f : StoreFactoryConfig) :
    Spelled P f ↔
      Spelled P f.kind ∧ Spelled P f.jdbcPojo ∧ Spelled P f.jdbcBlob ∧
        Spelled P f.hibernateBlob := by
  simp only [Spelled, texts, List.forall_mem_append, and_assoc]

theorem spelled_databaseField (f : DatabaseField) :
    Spelled P f ↔
      Spelled P f.databaseName ∧ Spelled P f.databaseType ∧ Spelled P f.javaName ∧
        Spelled P f.javaType := by
  simp only [Spelled, texts, List.forall_mem_append, and_assoc]

theorem spelled_queryField (f : QueryField) :
    Spelled P f ↔ Spelled P f.name ∧ Spelled P f.className := by
  simp only [Spelled, texts, List.forall_mem_append]

theorem spelled_groupField (f : GroupField) :
    Spelled P f ↔ Spelled P f.name ∧ Spelled P f.className := by
  simp only [Spelled, texts, List.forall_mem_append]

theorem spelled_fieldGroup (g : FieldGroup) :
    Spelled P g ↔ Spelled P g.name ∧ Spelled P g.fields := by
  simp only [Spelled, texts, List.forall_mem_append]

theorem spelled_indexedType (t : IndexedType) :
    Spelled P t ↔ Spelled P t.keyClass ∧ Spelled P t.valueClass := by
  simp only [Spelled, texts, List.forall_mem_append]

/-- The texts of a type are its names and classes and the texts of all its columns, fields and
groups. -/
theorem spelled_typeMetadata (t : TypeMetadata) :
    Spelled P t ↔
      Spelled P t.name ∧ Spelled P t.keyType ∧ Spelled P t.valueType ∧ Spelled P t.databaseSchema ∧
        Spelled P t.databaseTable ∧ Spelled P t.keyFields ∧ Spelled P t.valueFields ∧
        Spelled P t.queryFields ∧ Spelled P t.ascendingFields ∧ Spelled P t.descendingFields ∧
        Spelled P t.textFields ∧ Spelled P t.groups := by
  simp only [Spelled, texts, List.forall_mem_append, and_assoc]

/-- The texts of a cache are those of its settings at any depth; numbers and switches bring none. -/
theorem spelled_cacheConfig (c : CacheConfig) :
    Spelled P c ↔
      Spelled P c.name ∧ Spelled P c.atomicityMode ∧ Spelled P c.memoryMode ∧
        Spelled P c.evictionPolicy ∧ Spelled P c.nearConfiguration ∧ Spelled P c.indexedTypes ∧
        Spelled P c.sqlFunctionClasses ∧ Spelled P c.rebalanceMode ∧ Spelled P c.cacheStoreFactory ∧
        Spelled P c.transactionManagerLookupClassName ∧ Spelled P c.queryMetadata ∧
        Spelled P c.storeMetadata := by
  simp only [Spelled, texts, List.forall_mem_append, and_assoc]

/-- The texts of a cluster are those of its own settings and of all its caches. -/
theorem spelled_clusterConfig (c : ClusterConfig) :
    Spelled P c ↔
      Spelled P c.name ∧ Spelled P c.discovery ∧ Spelled P c.atomicConfiguration ∧
        Spelled P c.deploymentMode ∧ Spelled P c.includeEventTypes ∧ Spelled P c.marshaller ∧
        Spelled P c.peerClassLoadingLocalClassPathExclude ∧ Spelled P c.swapSpaceSpi ∧
        Spelled P c.transactionConfiguration ∧ Spelled P c.caches := by
  simp only [Spelled, texts, List.forall_mem_append, and_assoc]

end GridBeans.Config
