import GridBeans.Config.Eviction
import GridBeans.Config.Store
import GridBeans.Config.TypeMetadata

/-!
# Caches

The description of one cache.
-/
namespace GridBeans.Config

open GridBeans.Document

/-- How the entries of a cache are spread over the nodes. -/
inductive CacheMode where
  | partitioned | replicated | onNode
  deriving DecidableEq, Repr

/-- The name of a mode in documents, both those read and those written. -/
def CacheMode.name : CacheMode → String
  | .partitioned => "PARTITIONED"
  | .replicated => "REPLICATED"
  | .onNode => "LOCAL"

def CacheMode.all : List CacheMode :=
  [.partitioned, .replicated, .onNode]

def CacheMode.codec {ν : Type} [Source ν] : Codec ν CacheMode :=
  choice "CacheMode" (CacheMode.all.map fun mode => (mode.name, mode))

/-- A key class and a value class that are indexed together. -/
structure IndexedType where
  keyClass : String
  valueClass : String
  deriving DecidableEq, Repr

def IndexedType.schema {ν : Type} [Source ν] : Fields ν IndexedType :=
  IndexedType.mk
    <$> required "keyClass" text
    <*> required "valueClass" text

def IndexedType.codec {ν : Type} [Source ν] : Codec ν IndexedType :=
  record "IndexedType" IndexedType.schema

/-- One cache. A setting that is not given is left to the cache. -/
structure CacheConfig where
  name : Option String
  mode : Option CacheMode
  atomicityMode : Option String
  backups : Option Int
  readFromBackup : Option Bool
  startSize : Option Int
  memoryMode : Option String
  offHeapMaxMemory : Option Int
  swapEnabled : Option Bool
  copyOnRead : Option Bool
  evictionPolicy : Option EvictionPolicyConfig
  nearCacheEnabled : Option Bool
  nearConfiguration : Option NearCacheConfig
  sqlEscapeAll : Option Bool
  sqlOnheapRowCacheSize : Option Int
  longQueryWarningTimeout : Option Int
  indexedTypes : List IndexedType
  sqlFunctionClasses : List String
  rebalanceMode : Option String
  rebalanceThreadPoolSize : Option Int
  rebalanceBatchSize : Option Int
  rebalanceOrder : Option Int
  rebalanceDelay : Option Int
  rebalanceTimeout : Option Int
  rebalanceThrottle : Option Int
  cacheStoreFactory : Option StoreFactoryConfig
  loadPreviousValue : Option Bool
  readThrough : Option Bool
  writeThrough : Option Bool
  invalidate : Option Bool
  defaultLockTimeout : Option Int
  transactionManagerLookupClassName : Option String
  writeBehindEnabled : Option Bool
  writeBehindBatchSize : Option Int
  writeBehindFlushSize : Option Int
  writeBehindFlushFrequency : Option Int
  writeBehindFlushThreadCount : Option Int
  statisticsEnabled : Option Bool
  managementEnabled : Option Bool
  maxConcurrentAsyncOperations : Option Int
  queryMetadata : List TypeMetadata
  storeMetadata : List TypeMetadata
  deriving DecidableEq, Repr

def CacheConfig.schema {ν : Type} [Source ν] : Fields ν CacheConfig :=
  CacheConfig.mk
    <$> optional "name" text
    <*> optional "mode" CacheMode.codec
    <*> optional "atomicityMode" text
    <*> optional "backups" integer
    <*> optional "readFromBackup" bool
    <*> optional "startSize" integer
    <*> optional "memoryMode" text
    <*> optional "offHeapMaxMemory" integer
    <*> optional "swapEnabled" bool
    <*> optional "copyOnRead" bool
    <*> optional "evictionPolicy" EvictionPolicyConfig.codec
    <*> optional "nearCacheEnabled" bool
    <*> optional "nearConfiguration" NearCacheConfig.codec
    <*> optional "sqlEscapeAll" bool
    <*> optional "sqlOnheapRowCacheSize" integer
    <*> optional "longQueryWarningTimeout" integer
    <*> listed "indexedTypes" IndexedType.codec
    <*> listed "sqlFunctionClasses" text
    <*> optional "rebalanceMode" text
    <*> optional "rebalanceThreadPoolSize" integer
    <*> optional "rebalanceBatchSize" integer
    <*> optional "rebalanceOrder" integer
    <*> optional "rebalanceDelay" integer
    <*> optional "rebalanceTimeout" integer
    <*> optional "rebalanceThrottle" integer
    <*> optional "cacheStoreFactory" StoreFactoryConfig.codec
    <*> optional "loadPreviousValue" bool
    <*> optional "readThrough" bool
    <*> optional "writeThrough" bool
    <*> optional "invalidate" bool
    <*> optional "defaultLockTimeout" integer
    <*> optional "transactionManagerLookupClassName" text
    <*> optional "writeBehindEnabled" bool
    <*> optional "writeBehindBatchSize" integer
    <*> optional "writeBehindFlushSize" integer
    <*> optional "writeBehindFlushFrequency" integer
    <*> optional "writeBehindFlushThreadCount" integer
    <*> optional "statisticsEnabled" bool
    <*> optional "managementEnabled" bool
    <*> optional "maxConcurrentAsyncOperations" integer
    <*> listed "queryMetadata" TypeMetadata.codec
    <*> listed "storeMetadata" TypeMetadata.codec

def CacheConfig.codec {ν : Type} [Source ν] : Codec ν CacheConfig :=
  record "CacheConfig" CacheConfig.schema

end GridBeans.Config
