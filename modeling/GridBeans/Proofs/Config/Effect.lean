import GridBeans.Catalogue.Classes
import GridBeans.Config.Cluster
import GridBeans.Text.Blank

/-!
# Settings in effect

A description of which only the settings that are in effect are left: of several sections that of
the chosen kind, of a cache what its mode and switches call for, of a type the sides that its kind
names, and of several types with one name the first. Two descriptions with the same settings in
effect differ only in settings that are not.
-/
namespace GridBeans.Config

/-- A setting that counts only under a condition. -/
def onlyWhen {α : Type} (condition : Prop) [Decidable condition] (given : Option α) : Option α :=
  if condition then given else none

/-- A section, if it is the one of the chosen kind. -/
def sectionOf {α : Type} (chosen : Option String) (kind : String) (given : Option α) : Option α :=
  onlyWhen (chosen = some kind) given

/-! ## Sections by kind -/

def DiscoveryConfig.effective (d : DiscoveryConfig) : DiscoveryConfig where
  kind := d.kind
  multicast := sectionOf (some d.kind) "Multicast" d.multicast
  vm := sectionOf (some d.kind) "Vm" d.vm
  s3 := sectionOf (some d.kind) "S3" d.s3
  cloud := sectionOf (some d.kind) "Cloud" d.cloud
  googleStorage := sectionOf (some d.kind) "GoogleStorage" d.googleStorage
  jdbc := sectionOf (some d.kind) "Jdbc" d.jdbc
  sharedFs := sectionOf (some d.kind) "SharedFs" d.sharedFs

/-- A random choice of entries has one limit only. An empty kind is as good as none. -/
def EvictionPolicyConfig.effective (p : EvictionPolicyConfig) : EvictionPolicyConfig where
  kind := Text.nonEmpty? p.kind
  lru := sectionOf p.kind "LRU" p.lru
  rnd := (sectionOf p.kind "RND" p.rnd).map fun f => ⟨none, none, f.maxSize⟩
  fifo := sectionOf p.kind "FIFO" p.fifo
  sorted := sectionOf p.kind "SORTED" p.sorted

def StoreFactoryConfig.effective (f : StoreFactoryConfig) : StoreFactoryConfig where
  kind := Text.nonEmpty? f.kind
  jdbcPojo := sectionOf f.kind "CacheJdbcPojoStoreFactory" f.jdbcPojo
  jdbcBlob := sectionOf f.kind "CacheJdbcBlobStoreFactory" f.jdbcBlob
  hibernateBlob := sectionOf f.kind "CacheHibernateBlobStoreFactory" f.hibernateBlob

def MarshallerConfig.effective (m : MarshallerConfig) : MarshallerConfig where
  kind := Text.nonEmpty? m.kind
  optimized := sectionOf m.kind "OptimizedMarshaller" m.optimized
  jdk := sectionOf m.kind "JdkMarshaller" m.jdk

def SwapSpaceSpiConfig.effective (s : SwapSpaceSpiConfig) : SwapSpaceSpiConfig where
  kind := Text.nonEmpty? s.kind
  file := sectionOf s.kind "FileSwapSpaceSpi" s.file

/-! ## Types -/

/-- A type described for queries has no columns, one described for a store only no fields to query,
and a key of a Java library class no columns of its own. -/
def TypeMetadata.effective (t : TypeMetadata) : TypeMetadata :=
  { t with
    databaseSchema := onlyWhen (t.kind ≠ some .query) t.databaseSchema
    databaseTable := onlyWhen (t.kind ≠ some .query) t.databaseTable
    keyFields :=
      if t.kind = some .query ∨ t.keyType.any Catalogue.isJavaClass then [] else t.keyFields
    valueFields := if t.kind = some .query then [] else t.valueFields
    queryFields := if t.kind = some .store then [] else t.queryFields
    ascendingFields := if t.kind = some .store then [] else t.ascendingFields
    descendingFields := if t.kind = some .store then [] else t.descendingFields
    textFields := if t.kind = some .store then [] else t.textFields
    groups := if t.kind = some .store then [] else t.groups }

/-- The first type of each name. -/
def firstOfName : List TypeMetadata → List TypeMetadata
  | [] => []
  | t :: rest => t :: (firstOfName rest).filter fun later => later.name ≠ t.name

/-! ## Caches and clusters -/

def NearCacheConfig.effective (n : NearCacheConfig) : NearCacheConfig :=
  { n with nearEvictionPolicy := n.nearEvictionPolicy.map EvictionPolicyConfig.effective }

/-- Types for queries come before those for the store, so these do not count under a name that one
of the former has. -/
def CacheConfig.effective (c : CacheConfig) : CacheConfig :=
  { c with
    backups := onlyWhen (c.mode = some .partitioned) c.backups
    evictionPolicy := c.evictionPolicy.map EvictionPolicyConfig.effective
    nearConfiguration := onlyWhen (c.nearCacheEnabled = some true)
      (c.nearConfiguration.map NearCacheConfig.effective)
    rebalanceMode := onlyWhen (c.mode ≠ some .onNode) c.rebalanceMode
    rebalanceThreadPoolSize := onlyWhen (c.mode ≠ some .onNode) c.rebalanceThreadPoolSize
    rebalanceBatchSize := onlyWhen (c.mode ≠ some .onNode) c.rebalanceBatchSize
    rebalanceOrder := onlyWhen (c.mode ≠ some .onNode) c.rebalanceOrder
    rebalanceDelay := onlyWhen (c.mode ≠ some .onNode) c.rebalanceDelay
    rebalanceTimeout := onlyWhen (c.mode ≠ some .onNode) c.rebalanceTimeout
    rebalanceThrottle := onlyWhen (c.mode ≠ some .onNode) c.rebalanceThrottle
    cacheStoreFactory := c.cacheStoreFactory.map StoreFactoryConfig.effective
    queryMetadata := (firstOfName c.queryMetadata).map TypeMetadata.effective
    storeMetadata := ((firstOfName c.storeMetadata).filter fun t =>
      t.name ∉ c.queryMetadata.map TypeMetadata.name).map TypeMetadata.effective }

def ClusterConfig.effective (c : ClusterConfig) : ClusterConfig :=
  { c with
    discovery := c.discovery.map DiscoveryConfig.effective
    marshaller := c.marshaller.map MarshallerConfig.effective
    swapSpaceSpi := c.swapSpaceSpi.map SwapSpaceSpiConfig.effective
    caches := c.caches.map CacheConfig.effective }

@[simp] theorem onlyWhen_of {α : Type} {condition : Prop} [Decidable condition]
    (holds : condition) (given : Option α) : onlyWhen condition given = given :=
  if_pos holds

@[simp] theorem sectionOf_self {α : Type} (kind : String) (given : Option α) :
    sectionOf (some kind) kind given = given :=
  onlyWhen_of rfl given

end GridBeans.Config
