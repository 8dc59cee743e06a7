import GridBeans.Generation.StoreFactory
import GridBeans.Generation.TypeEntry

/-!
# Caches

The bean of one cache. Its properties come in groups, with a blank line between two groups that
have any.
-/
namespace GridBeans.Generation

open GridBeans.Markup GridBeans.Config GridBeans.Catalogue

def cacheClass : String := "org.apache.ignite.configuration.CacheConfiguration"

def nearCacheClass : String := "org.apache.ignite.configuration.NearCacheConfiguration"

def nearProperties (n : NearCacheConfig) : Script Unit := do
  property "nearStartSize" n.nearStartSize
  discard (evictionPolicy n.nearEvictionPolicy "nearEvictionPolicy")

/-- The bean of a near cache, with an id if one is given. -/
def nearCacheBean (id : Option String) (near : Option NearCacheConfig) : Script Unit :=
  let ids := match id with
    | some id => [writtenAttr "id" id]
    | none => []
  .block "bean" (ids ++ [writtenAttr "class" nearCacheClass])
    (.forSome near nearProperties)

/-- The key and the value classes of indexed types, by turns. -/
def indexedClasses (types : List IndexedType) : List String :=
  types.flatMap fun t => [resolveClassName t.keyClass, resolveClassName t.valueClass]

/-- Mode, backups and start size. Backups are for the partitioned mode only. -/
def cacheLayout (c : CacheConfig) : Script Unit := do
  property "cacheMode" c.mode
  property "atomicityMode" c.atomicityMode
  Script.onlyIf (c.mode = some .partitioned) (property "backups" c.backups)
  property "readFromBackup" c.readFromBackup
  property "startSize" c.startSize

def cacheMemory (c : CacheConfig) : Script Unit := do
  property "memoryMode" c.memoryMode
  property "offHeapMaxMemory" c.offHeapMaxMemory
  property "swapEnabled" c.swapEnabled
  property "copyOnRead" c.copyOnRead

/-- The near cache, only where it is switched on. -/
def cacheNear (c : CacheConfig) : Script Unit :=
  Script.onlyIf (c.nearCacheEnabled = some true) do
    Script.sectionStart
    propertyBlock "nearConfiguration" (nearCacheBean none c.nearConfiguration)

def cacheQueries (c : CacheConfig) : Script Unit := do
  property "sqlEscapeAll" c.sqlEscapeAll
  property "sqlOnheapRowCacheSize" c.sqlOnheapRowCacheSize
  property "longQueryWarningTimeout" c.longQueryWarningTimeout
  listProperty "indexedTypes" "list" (indexedClasses c.indexedTypes)
  listProperty "sqlFunctionClasses" "array" c.sqlFunctionClasses

/-- A cache that is not spread over nodes has nothing to rebalance. -/
def cacheRebalance (c : CacheConfig) : Script Unit := Script.onlyIf (c.mode ≠ some .onNode) do
  property "rebalanceMode" c.rebalanceMode
  property "rebalanceThreadPoolSize" c.rebalanceThreadPoolSize
  property "rebalanceBatchSize" c.rebalanceBatchSize
  property "rebalanceOrder" c.rebalanceOrder
  property "rebalanceDelay" c.rebalanceDelay
  property "rebalanceTimeout" c.rebalanceTimeout
  property "rebalanceThrottle" c.rebalanceThrottle
  Script.requestBlank

def cacheThrough (c : CacheConfig) : Script Unit := do
  property "loadPreviousValue" c.loadPreviousValue
  property "readThrough" c.readThrough
  property "writeThrough" c.writeThrough

def cacheLocking (c : CacheConfig) : Script Unit := do
  property "invalidate" c.invalidate
  property "defaultLockTimeout" c.defaultLockTimeout
  property "transactionManagerLookupClassName" c.transactionManagerLookupClassName

def cacheWriteBehind (c : CacheConfig) : Script Unit := do
  property "writeBehindEnabled" c.writeBehindEnabled
  property "writeBehindBatchSize" c.writeBehindBatchSize
  property "writeBehindFlushSize" c.writeBehindFlushSize
  property "writeBehindFlushFrequency" c.writeBehindFlushFrequency
  property "writeBehindFlushThreadCount" c.writeBehindFlushThreadCount

def cacheStatistics (c : CacheConfig) : Script Unit := do
  property "statisticsEnabled" c.statisticsEnabled
  property "managementEnabled" c.managementEnabled

/-- The properties of a cache, group by group. -/
def cacheProperties (c : CacheConfig) : Script Unit := do
  property "name" c.name
  Script.requestBlank
  cacheLayout c
  Script.requestBlank
  cacheMemory c
  Script.requestBlank
  discard (evictionPolicy c.evictionPolicy "evictionPolicy")
  Script.requestBlank
  cacheNear c
  Script.requestBlank
  cacheQueries c
  Script.requestBlank
  cacheRebalance c
  discard (storeFactory c.cacheStoreFactory)
  Script.requestBlank
  cacheThrough c
  Script.requestBlank
  cacheLocking c
  Script.requestBlank
  cacheWriteBehind c
  Script.requestBlank
  cacheStatistics c
  Script.requestBlank
  property "maxConcurrentAsyncOperations" c.maxConcurrentAsyncOperations
  typeEntries c.queryMetadata c.storeMetadata

def cacheBean (c : CacheConfig) : Script Unit :=
  beanBlock cacheClass (cacheProperties c)

end GridBeans.Generation
