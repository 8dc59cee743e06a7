import GridBeans.Config.Cluster

/-!
# Unset descriptions

Descriptions in which nothing is given, to which single settings can be added, and caches of which
nothing is given but a store that maps objects to tables.
-/
namespace GridBeans.Config

def CacheConfig.unset : CacheConfig where
  name := none
  mode := none
  atomicityMode := none
  backups := none
  readFromBackup := none
  startSize := none
  memoryMode := none
  offHeapMaxMemory := none
  swapEnabled := none
  copyOnRead := none
  evictionPolicy := none
  nearCacheEnabled := none
  nearConfiguration := none
  sqlEscapeAll := none
  sqlOnheapRowCacheSize := none
  longQueryWarningTimeout := none
  indexedTypes := []
  sqlFunctionClasses := []
  rebalanceMode := none
  rebalanceThreadPoolSize := none
  rebalanceBatchSize := none
  rebalanceOrder := none
  rebalanceDelay := none
  rebalanceTimeout := none
  rebalanceThrottle := none
  cacheStoreFactory := none
  loadPreviousValue := none
  readThrough := none
  writeThrough := none
  invalidate := none
  defaultLockTimeout := none
  transactionManagerLookupClassName := none
  writeBehindEnabled := none
  writeBehindBatchSize := none
  writeBehindFlushSize := none
  writeBehindFlushFrequency := none
  writeBehindFlushThreadCount := none
  statisticsEnabled := none
  managementEnabled := none
  maxConcurrentAsyncOperations := none
  queryMetadata := []
  storeMetadata := []

def ClusterConfig.unset : ClusterConfig where
  name := none
  discovery := none
  atomicConfiguration := none
  networkTimeout := none
  networkSendRetryDelay := none
  networkSendRetryCount := none
  segmentCheckFrequency := none
  waitForSegmentOnStart := none
  discoveryStartupDelay := none
  deploymentMode := none
  includeEventTypes := []
  marshaller := none
  marshalLocalJobs := none
  marshallerCacheKeepAliveTime := none
  marshallerCacheThreadPoolSize := none
  metricsExpireTime := none
  metricsHistorySize := none
  metricsLogFrequency := none
  metricsUpdateFrequency := none
  peerClassLoadingEnabled := none
  peerClassLoadingLocalClassPathExclude := []
  peerClassLoadingMissedResourcesCacheSize := none
  peerClassLoadingThreadPoolSize := none
  swapSpaceSpi := none
  clockSyncSamples := none
  clockSyncFrequency := none
  timeServerPortBase := none
  timeServerPortRange := none
  publicThreadPoolSize := none
  systemThreadPoolSize := none
  managementThreadPoolSize := none
  igfsThreadPoolSize := none
  transactionConfiguration := none
  caches := []

def DiscoveryConfig.unset : DiscoveryConfig where
  kind := ""
  multicast := none
  vm := none
  s3 := none
  cloud := none
  googleStorage := none
  jdbc := none
  sharedFs := none

/-- A cache whose store maps objects to tables of a data source by a dialect. -/
def CacheConfig.stored (beanId dialect : String) : CacheConfig :=
  { CacheConfig.unset with
    cacheStoreFactory := some
      ⟨some "CacheJdbcPojoStoreFactory", some ⟨some beanId, some dialect⟩, none, none⟩ }

end GridBeans.Config
