import GridBeans.Config.Cluster
import GridBeans.Generation.CacheBean
import GridBeans.Generation.EventTypes
import GridBeans.Generation.NodeParts

/-!
# Nodes

The bean of a node of the cluster, with the beans of the caches in it. A client node also has a
near cache, declared ahead of it.
-/
namespace GridBeans.Generation

open GridBeans.Markup GridBeans.Config

def nodeClass : String := "org.apache.ignite.configuration.IgniteConfiguration"

/-- The id of the near cache of a client node. -/
def nearCacheId : String := "nearCacheBean"

def nodeNetwork (c : ClusterConfig) : Script Unit := do
  property "networkTimeout" c.networkTimeout
  property "networkSendRetryDelay" c.networkSendRetryDelay
  property "networkSendRetryCount" c.networkSendRetryCount
  property "segmentCheckFrequency" c.segmentCheckFrequency
  property "waitForSegmentOnStart" c.waitForSegmentOnStart
  property "discoveryStartupDelay" c.discoveryStartupDelay

def nodeMarshalling (c : ClusterConfig) : Script Unit := do
  property "marshalLocalJobs" c.marshalLocalJobs
  property "marshallerCacheKeepAliveTime" c.marshallerCacheKeepAliveTime
  property "marshallerCacheThreadPoolSize" c.marshallerCacheThreadPoolSize

def nodeMetrics (c : ClusterConfig) : Script Unit := do
  property "metricsExpireTime" c.metricsExpireTime
  property "metricsHistorySize" c.metricsHistorySize
  property "metricsLogFrequency" c.metricsLogFrequency
  property "metricsUpdateFrequency" c.metricsUpdateFrequency

def nodeClassLoading (c : ClusterConfig) : Script Unit := do
  property "peerClassLoadingEnabled" c.peerClassLoadingEnabled
  listProperty "peerClassLoadingLocalClassPathExclude" "list"
    c.peerClassLoadingLocalClassPathExclude
  property "peerClassLoadingMissedResourcesCacheSize"
    c.peerClassLoadingMissedResourcesCacheSize
  property "peerClassLoadingThreadPoolSize" c.peerClassLoadingThreadPoolSize

def nodeTime (c : ClusterConfig) : Script Unit := do
  property "clockSyncSamples" c.clockSyncSamples
  property "clockSyncFrequency" c.clockSyncFrequency
  property "timeServerPortBase" c.timeServerPortBase
  property "timeServerPortRange" c.timeServerPortRange

def nodeThreadPools (c : ClusterConfig) : Script Unit := do
  property "publicThreadPoolSize" c.publicThreadPoolSize
  property "systemThreadPoolSize" c.systemThreadPoolSize
  property "managementThreadPoolSize" c.managementThreadPoolSize
  property "igfsThreadPoolSize" c.igfsThreadPoolSize

/-- The caches of a node, with a blank line between two of them. -/
def nodeCaches (caches : List CacheConfig) : Script Unit :=
  if caches.isEmpty then pure ()
  else do
    Script.sectionStart
    propertyBlock "cacheConfiguration"
      (.block "list" [] (.forEachSpaced caches cacheBean))

/-- What a client node has before all else. -/
def clientMode (client : Bool) : Script Unit :=
  Script.onlyIf client do
    property "clientMode" (some true)
    Script.requestBlank

def nodeDiscovery (c : ClusterConfig) : Script Unit :=
  Script.forSome c.discovery fun d => do
    discovery d
    Script.requestBlank

/-- A part of a node, and a blank line due after it if it was chosen. -/
def chosenPart (part : Script Bool) : Script Unit := do
  let chosen ← part
  Script.onlyIf chosen Script.requestBlank

/-- The properties of a node, group by group. -/
def nodeProperties (c : ClusterConfig) (client : Bool) : Script Unit := do
  clientMode client
  nodeDiscovery c
  shapedBean "atomicConfiguration" .atomicConfiguration (membersOf c.atomicConfiguration) false
  Script.requestBlank
  nodeNetwork c
  Script.requestBlank
  property "deploymentMode" c.deploymentMode
  Script.requestBlank
  eventTypes c.includeEventTypes
  chosenPart (marshaller c.marshaller)
  nodeMarshalling c
  Script.requestBlank
  nodeMetrics c
  Script.requestBlank
  nodeClassLoading c
  Script.requestBlank
  chosenPart (swapSpace c.swapSpaceSpi)
  nodeTime c
  Script.requestBlank
  nodeThreadPools c
  Script.requestBlank
  shapedBean "transactionConfiguration" .transactionConfiguration
    (membersOf c.transactionConfiguration) true
  Script.requestBlank
  nodeCaches c.caches

/-- The near cache of a client node, declared ahead of the node. -/
def clientNearBean (clientNear : Option NearCacheConfig) : Script Unit :=
  Script.forSome clientNear fun near => do
    nearCacheBean (some nearCacheId) (some near)
    Script.blank

/-- The beans of a node: for a client the near cache and a blank line, then the node itself. -/
def nodeBeans (c : ClusterConfig) (clientNear : Option NearCacheConfig) : Script Unit := do
  clientNearBean clientNear
  beanBlock nodeClass (nodeProperties c clientNear.isSome)

end GridBeans.Generation
