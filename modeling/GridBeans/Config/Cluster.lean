import GridBeans.Config.Cache
import GridBeans.Config.Discovery
import GridBeans.Config.Node

/-!
# Clusters

The description of a cluster: the settings of its nodes, and its caches.
-/
namespace GridBeans.Config

open GridBeans.Document

/-- A cluster. A setting that is not given is left to the nodes. -/
structure ClusterConfig where
  name : Option String
  discovery : Option DiscoveryConfig
  atomicConfiguration : Option AtomicConfiguration
  networkTimeout : Option Int
  networkSendRetryDelay : Option Int
  networkSendRetryCount : Option Int
  segmentCheckFrequency : Option Int
  waitForSegmentOnStart : Option Bool
  discoveryStartupDelay : Option Int
  deploymentMode : Option String
  includeEventTypes : List String
  marshaller : Option MarshallerConfig
  marshalLocalJobs : Option Bool
  marshallerCacheKeepAliveTime : Option Int
  marshallerCacheThreadPoolSize : Option Int
  metricsExpireTime : Option Int
  metricsHistorySize : Option Int
  metricsLogFrequency : Option Int
  metricsUpdateFrequency : Option Int
  peerClassLoadingEnabled : Option Bool
  peerClassLoadingLocalClassPathExclude : List String
  peerClassLoadingMissedResourcesCacheSize : Option Int
  peerClassLoadingThreadPoolSize : Option Int
  swapSpaceSpi : Option SwapSpaceSpiConfig
  clockSyncSamples : Option Int
  clockSyncFrequency : Option Int
  timeServerPortBase : Option Int
  timeServerPortRange : Option Int
  publicThreadPoolSize : Option Int
  systemThreadPoolSize : Option Int
  managementThreadPoolSize : Option Int
  igfsThreadPoolSize : Option Int
  transactionConfiguration : Option TransactionConfiguration
  caches : List CacheConfig
  deriving DecidableEq, Repr

def ClusterConfig.schema {ν : Type} [Source ν] : Fields ν ClusterConfig :=
  ClusterConfig.mk
    <$> optional "name" text
    <*> optional "discovery" DiscoveryConfig.codec
    <*> optional "atomicConfiguration" AtomicConfiguration.codec
    <*> optional "networkTimeout" integer
    <*> optional "networkSendRetryDelay" integer
    <*> optional "networkSendRetryCount" integer
    <*> optional "segmentCheckFrequency" integer
    <*> optional "waitForSegmentOnStart" bool
    <*> optional "discoveryStartupDelay" integer
    <*> optional "deploymentMode" text
    <*> (listed "includeEventTypes" text).noted "Event group names, e.g. `EVTS_CACHE`."
    <*> optional "marshaller" MarshallerConfig.codec
    <*> optional "marshalLocalJobs" bool
    <*> optional "marshallerCacheKeepAliveTime" integer
    <*> optional "marshallerCacheThreadPoolSize" integer
    <*> optional "metricsExpireTime" integer
    <*> optional "metricsHistorySize" integer
    <*> optional "metricsLogFrequency" integer
    <*> optional "metricsUpdateFrequency" integer
    <*> optional "peerClassLoadingEnabled" bool
    <*> listed "peerClassLoadingLocalClassPathExclude" text
    <*> optional "peerClassLoadingMissedResourcesCacheSize" integer
    <*> optional "peerClassLoadingThreadPoolSize" integer
    <*> optional "swapSpaceSpi" SwapSpaceSpiConfig.codec
    <*> optional "clockSyncSamples" integer
    <*> optional "clockSyncFrequency" integer
    <*> optional "timeServerPortBase" integer
    <*> optional "timeServerPortRange" integer
    <*> optional "publicThreadPoolSize" integer
    <*> optional "systemThreadPoolSize" integer
    <*> optional "managementThreadPoolSize" integer
    <*> optional "igfsThreadPoolSize" integer
    <*> optional "transactionConfiguration" TransactionConfiguration.codec
    <*> listed "caches" CacheConfig.codec

def ClusterConfig.codec {ν : Type} [Source ν] : Codec ν ClusterConfig :=
  record "ClusterConfig" ClusterConfig.schema

end GridBeans.Config
