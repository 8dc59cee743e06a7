import GridBeans.Generation.Document
import GridBeans.Proofs.Markup.Legal
import GridBeans.Proofs.Markup.Sections

/-!
# Outlines

The lines of every part of a document, straight from the description and without any cursor: an
element for each setting that is given, and groups of settings with a blank line between two that
have any. What is not given has no line, and neither has what a description chooses by a name that
is not known, for which nothing is generated.
-/
namespace GridBeans.Generation

open GridBeans.Markup GridBeans.Config GridBeans.Catalogue GridBeans.Json

/-! ## Properties -/

def propertyAround (name : String) (inside : List Line) : List Line :=
  elementLines "property" [writtenAttr "name" name] inside

def beanAround (className : String) (inside : List Line) : List Line :=
  elementLines "bean" [writtenAttr "class" className] inside

def bareBean (className : String) : List Line :=
  pieceLines [beanTag (.written className)]

def propertyLines {α : Type} [PropertyValue α] (name : String) (value : Option α) : List Line :=
  pieceLines (value.toList.map fun a => propertyTag name (PropertyValue.attributeValue a))

/-- A property whose value is a class, by its full name. -/
def classLines (name : String) (className : Option String) : List Line :=
  propertyLines name (className.map resolveClassName)

/-- A property around a container that has something in it. -/
def containerLines (name container : String) (inside : List Line) : List Line :=
  if inside = [] then [] else propertyAround name (elementLines container [] inside)

def listLines (name container : String) (items : List String) : List Line :=
  containerLines name container (pieceLines (items.map valueLeaf))

/-! ## Beans of a shape -/

def FieldShape.valueLines (f : FieldShape) (v : Value) : List Line :=
  match f.kind with
  | .scalar => propertyLines f.propertyName (some v)
  | .list => listLines f.propertyName "list" (itemTexts v)
  | .classNameRef =>
    match v with
    | .string name =>
      if name.isEmpty then []
      else propertyAround f.propertyName (pieceLines [beanTag (.plain (resolveClassName name))])
    | _ => []
  | .propertyBag => containerLines f.propertyName "props" (pieceLines ((bagEntries v).map bagLeaf))

def FieldShape.lines (f : FieldShape) (members : List (String × Value)) : List Line :=
  if f.hasValue members then (member? f.name members).toList.flatMap f.valueLines else []

def shapedLines (name : String) (shape : BeanShape) (members : List (String × Value))
    (force : Bool) : List Line :=
  if shape.fields.any (·.hasValue members) then
    propertyAround name (beanAround shape.className (shape.fields.flatMap (·.lines members)))
  else if force then propertyAround name (bareBean shape.className)
  else []

def chosenLines {κ : Type} (kind : Option String) (ofName : String → Except Failure κ)
    (lines : κ → List Line) : List Line :=
  match Text.nonEmpty? kind with
  | none => []
  | some name =>
    match ofName name with
    | .ok k => lines k
    | .error _ => []

def evictionLines (policy : Option EvictionPolicyConfig) (name : String) : List Line :=
  policy.toList.flatMap fun p => chosenLines p.kind EvictionKind.ofName fun k =>
    shapedLines name k.shape (membersOf (k.limits p)) true

def StoreKind.settings (k : StoreKind) (f : StoreFactoryConfig) : List (String × Value) :=
  match k with
  | .jdbcPojo => membersOf f.jdbcPojo
  | .jdbcBlob => membersOf f.jdbcBlob
  | .hibernateBlob => membersOf f.hibernateBlob

def storeLines (factory : Option StoreFactoryConfig) : List Line :=
  factory.toList.flatMap fun f => chosenLines f.kind StoreKind.ofName fun k =>
    shapedLines "cacheStoreFactory" k.shape (k.settings f) true

def marshallerLines (config : Option MarshallerConfig) : List Line :=
  config.toList.flatMap fun m => chosenLines m.kind MarshallerKind.ofName fun k =>
    shapedLines "marshaller" k.shape (k.settings m) true

def swapSpaceLines (config : Option SwapSpaceSpiConfig) : List Line :=
  config.toList.flatMap fun s =>
    if s.kind = some fileSwapSpaceKind then
      shapedLines "swapSpaceSpi" .fileSwapSpaceSpi (membersOf s.file) true
    else []

/-! ## Discovery and event types -/

def finderLines (finder : IpFinder) : List Line :=
  let className := finder.kind.className
  match finder with
  | .multicast m => beanAround className <|
      propertyLines "multicastGroup" m.multicastGroup ++
      propertyLines "multicastPort" m.multicastPort ++
      propertyLines "responseWaitTime" m.responseWaitTime ++
      propertyLines "addressRequestAttempts" m.addressRequestAttempts ++
      propertyLines "localAddress" m.localAddress
  | .vm v =>
    if v.addresses.isEmpty then bareBean className
    else beanAround className (listLines "addresses" "list" v.addresses)
  | .s3 s => beanAround className
      (propertyLines "bucketName" (Text.nonEmpty? (s.bind (·.bucketName))))
  | .cloud c => beanAround className <|
      propertyLines "credential" c.credential ++
      propertyLines "credentialPath" c.credentialPath ++
      propertyLines "identity" c.identity ++
      propertyLines "provider" c.provider ++
      listLines "regions" "list" c.regions ++
      listLines "zones" "list" c.zones
  | .googleStorage g => beanAround className <|
      propertyLines "projectName" g.projectName ++
      propertyLines "bucketName" g.bucketName ++
      propertyLines "serviceAccountP12FilePath" g.serviceAccountP12FilePath ++
      propertyLines "serviceAccountId" g.serviceAccountId
  | .jdbc j => beanAround className
      (propertyLines "initSchema" (some (j.initSchema.getD false)))
  | .sharedFs f =>
    match Text.nonEmpty? f.path with
    | some path => beanAround className (propertyLines "path" (some path))
    | none => bareBean className

def discoveryLines (config : Option DiscoveryConfig) : List Line :=
  config.toList.flatMap fun d =>
    match IpFinder.ofConfig d with
    | .ok finder => propertyAround "discoverySpi"
        (beanAround tcpDiscoverySpi (propertyAround "ipFinder" (finderLines finder)))
    | .error _ => []

/-- A comment and the constants of the events of a group. -/
def groupEventLines (g : EventGroup) : List Line :=
  pieceLines (.comment ("EventType." ++ g.name) :: g.events.map eventConstant)

/-- One group by its own constant, several written out. -/
def eventGroupLines : List EventGroup → List Line
  | [g] => pieceLines [eventConstant g.name]
  | groups => elementLines "array" [] (spaced (groups.map groupEventLines))

def eventLines (names : List String) : List Line :=
  if names.isEmpty then []
  else
    match names.mapM groupNamed with
    | .ok groups => propertyAround "includeEventTypes" (eventGroupLines groups)
    | .error _ => []

/-! ## Type entries -/

def databaseFieldLines (f : DatabaseField) : List Line :=
  beanAround typeFieldClass <|
    propertyLines "databaseName" f.databaseName ++
    propertyAround "databaseType" (pieceLines [constantTag "java.sql.Types" f.databaseType]) ++
    propertyLines "javaName" f.javaName ++
    classLines "javaType" f.javaType

def databaseFieldsLines (name : String) (fields : List DatabaseField) : List Line :=
  containerLines name "list" (fields.flatMap databaseFieldLines)

def queryFieldsLines (name : String) (fields : List QueryField) : List Line :=
  containerLines name "map" <| pieceLines <| fields.map fun f =>
    .emptyTag "entry" [attr "key" f.name, attr "value" (resolveClassName f.className)]

/-- The class and the direction of one field of a group index. -/
def groupFieldLines (f : GroupField) : List Line :=
  elementLines "entry" [attr "key" f.name] <| beanAround tupleClass <| pieceLines
    [.emptyTag "constructor-arg" [attr "value" (resolveClassName f.className)],
      .emptyTag "constructor-arg" [⟨"value", PropertyValue.attributeValue f.direction⟩]]

def fieldGroupLines (g : FieldGroup) : List Line :=
  elementLines "entry" [attr "key" g.name]
    (elementLines "map" [] (g.fields.flatMap groupFieldLines))

def databaseSideLines (t : TypeMetadata) : List Line :=
  propertyLines "databaseSchema" t.databaseSchema ++
    propertyLines "databaseTable" t.databaseTable ++
    (if hasKeyColumns t.keyType then databaseFieldsLines "keyFields" t.keyFields else []) ++
    databaseFieldsLines "valueFields" t.valueFields

def querySideLines (t : TypeMetadata) : List Line :=
  queryFieldsLines "queryFields" t.queryFields ++
    queryFieldsLines "ascendingFields" t.ascendingFields ++
    queryFieldsLines "descendingFields" t.descendingFields ++
    listLines "textFields" "list" t.textFields ++
    containerLines "groups" "map"
      ((t.groups.filter fun g => !g.fields.isEmpty).flatMap fieldGroupLines)

def typeEntryLines (t : TypeMetadata) : List Line :=
  beanAround typeMetadataClass <|
    classLines "keyType" t.keyType ++
    propertyLines "valueType" t.valueType ++
    (if t.kind ≠ some .query then databaseSideLines t else []) ++
    (if t.kind ≠ some .store then querySideLines t else [])

def typeEntriesLines (query store : List TypeMetadata) : List Line :=
  containerLines "typeMetadata" "list"
    ((firstByName [] (query ++ store)).flatMap typeEntryLines)

/-! ## Caches -/

def nearLines (n : NearCacheConfig) : List Line :=
  propertyLines "nearStartSize" n.nearStartSize ++
    evictionLines n.nearEvictionPolicy "nearEvictionPolicy"

/-- The bean of a near cache, with an id if one is given. -/
def nearBeanLines (id : Option String) (near : Option NearCacheConfig) : List Line :=
  elementLines "bean" (id.toList.map (writtenAttr "id") ++ [writtenAttr "class" nearCacheClass])
    (near.toList.flatMap nearLines)

/-- Backups only count where a cache is partitioned. -/
def cacheLayoutLines (c : CacheConfig) : List Line :=
  propertyLines "cacheMode" c.mode ++
    propertyLines "atomicityMode" c.atomicityMode ++
    (if c.mode = some .partitioned then propertyLines "backups" c.backups else []) ++
    propertyLines "readFromBackup" c.readFromBackup ++
    propertyLines "startSize" c.startSize

def cacheMemoryLines (c : CacheConfig) : List Line :=
  propertyLines "memoryMode" c.memoryMode ++
    propertyLines "offHeapMaxMemory" c.offHeapMaxMemory ++
    propertyLines "swapEnabled" c.swapEnabled ++
    propertyLines "copyOnRead" c.copyOnRead

/-- The near cache counts only where it is switched on. -/
def cacheNearLines (c : CacheConfig) : List Line :=
  if c.nearCacheEnabled = some true then
    propertyAround "nearConfiguration" (nearBeanLines none c.nearConfiguration)
  else []

def cacheQueriesLines (c : CacheConfig) : List Line :=
  propertyLines "sqlEscapeAll" c.sqlEscapeAll ++
    propertyLines "sqlOnheapRowCacheSize" c.sqlOnheapRowCacheSize ++
    propertyLines "longQueryWarningTimeout" c.longQueryWarningTimeout ++
    listLines "indexedTypes" "list" (indexedClasses c.indexedTypes) ++
    listLines "sqlFunctionClasses" "array" c.sqlFunctionClasses

/-- There is nothing to rebalance where each node keeps a cache of its own. -/
def cacheRebalanceLines (c : CacheConfig) : List Line :=
  if c.mode = some .onNode then []
  else
    propertyLines "rebalanceMode" c.rebalanceMode ++
      propertyLines "rebalanceThreadPoolSize" c.rebalanceThreadPoolSize ++
      propertyLines "rebalanceBatchSize" c.rebalanceBatchSize ++
      propertyLines "rebalanceOrder" c.rebalanceOrder ++
      propertyLines "rebalanceDelay" c.rebalanceDelay ++
      propertyLines "rebalanceTimeout" c.rebalanceTimeout ++
      propertyLines "rebalanceThrottle" c.rebalanceThrottle

def cacheThroughLines (c : CacheConfig) : List Line :=
  propertyLines "loadPreviousValue" c.loadPreviousValue ++
    propertyLines "readThrough" c.readThrough ++
    propertyLines "writeThrough" c.writeThrough

def cacheLockingLines (c : CacheConfig) : List Line :=
  propertyLines "invalidate" c.invalidate ++
    propertyLines "defaultLockTimeout" c.defaultLockTimeout ++
    propertyLines "transactionManagerLookupClassName" c.transactionManagerLookupClassName

def cacheWriteBehindLines (c : CacheConfig) : List Line :=
  propertyLines "writeBehindEnabled" c.writeBehindEnabled ++
    propertyLines "writeBehindBatchSize" c.writeBehindBatchSize ++
    propertyLines "writeBehindFlushSize" c.writeBehindFlushSize ++
    propertyLines "writeBehindFlushFrequency" c.writeBehindFlushFrequency ++
    propertyLines "writeBehindFlushThreadCount" c.writeBehindFlushThreadCount

def cacheStatisticsLines (c : CacheConfig) : List Line :=
  propertyLines "statisticsEnabled" c.statisticsEnabled ++
    propertyLines "managementEnabled" c.managementEnabled

/-- The groups of properties of a cache. -/
def cacheGroups (c : CacheConfig) : List (List Line) :=
  [ propertyLines "name" c.name,
    cacheLayoutLines c,
    cacheMemoryLines c,
    evictionLines c.evictionPolicy "evictionPolicy",
    cacheNearLines c,
    cacheQueriesLines c,
    cacheRebalanceLines c,
    storeLines c.cacheStoreFactory,
    cacheThroughLines c,
    cacheLockingLines c,
    cacheWriteBehindLines c,
    cacheStatisticsLines c,
    propertyLines "maxConcurrentAsyncOperations" c.maxConcurrentAsyncOperations ++
      typeEntriesLines c.queryMetadata c.storeMetadata ]

def cacheLines (c : CacheConfig) : List Line :=
  beanAround cacheClass (spaced (cacheGroups c))

/-! ## Nodes -/

def clientModeLines (client : Bool) : List Line :=
  if client then propertyLines "clientMode" (some true) else []

/-- The caches of a node, with a blank line between two of them. -/
def cachesLines (caches : List CacheConfig) : List Line :=
  containerLines "cacheConfiguration" "list" (spaced (caches.map cacheLines))

def atomicLines (c : ClusterConfig) : List Line :=
  shapedLines "atomicConfiguration" .atomicConfiguration (membersOf c.atomicConfiguration) false

def transactionLines (c : ClusterConfig) : List Line :=
  shapedLines "transactionConfiguration" .transactionConfiguration
    (membersOf c.transactionConfiguration) true

def nodeNetworkLines (c : ClusterConfig) : List Line :=
  propertyLines "networkTimeout" c.networkTimeout ++
    propertyLines "networkSendRetryDelay" c.networkSendRetryDelay ++
    propertyLines "networkSendRetryCount" c.networkSendRetryCount ++
    propertyLines "segmentCheckFrequency" c.segmentCheckFrequency ++
    propertyLines "waitForSegmentOnStart" c.waitForSegmentOnStart ++
    propertyLines "discoveryStartupDelay" c.discoveryStartupDelay

def nodeMarshallingLines (c : ClusterConfig) : List Line :=
  propertyLines "marshalLocalJobs" c.marshalLocalJobs ++
    propertyLines "marshallerCacheKeepAliveTime" c.marshallerCacheKeepAliveTime ++
    propertyLines "marshallerCacheThreadPoolSize" c.marshallerCacheThreadPoolSize

def nodeMetricsLines (c : ClusterConfig) : List Line :=
  propertyLines "metricsExpireTime" c.metricsExpireTime ++
    propertyLines "metricsHistorySize" c.metricsHistorySize ++
    propertyLines "metricsLogFrequency" c.metricsLogFrequency ++
    propertyLines "metricsUpdateFrequency" c.metricsUpdateFrequency

def nodeClassLoadingLines (c : ClusterConfig) : List Line :=
  propertyLines "peerClassLoadingEnabled" c.peerClassLoadingEnabled ++
    listLines "peerClassLoadingLocalClassPathExclude" "list"
      c.peerClassLoadingLocalClassPathExclude ++
    propertyLines "peerClassLoadingMissedResourcesCacheSize"
      c.peerClassLoadingMissedResourcesCacheSize ++
    propertyLines "peerClassLoadingThreadPoolSize" c.peerClassLoadingThreadPoolSize

def nodeTimeLines (c : ClusterConfig) : List Line :=
  propertyLines "clockSyncSamples" c.clockSyncSamples ++
    propertyLines "clockSyncFrequency" c.clockSyncFrequency ++
    propertyLines "timeServerPortBase" c.timeServerPortBase ++
    propertyLines "timeServerPortRange" c.timeServerPortRange

def nodeThreadPoolLines (c : ClusterConfig) : List Line :=
  propertyLines "publicThreadPoolSize" c.publicThreadPoolSize ++
    propertyLines "systemThreadPoolSize" c.systemThreadPoolSize ++
    propertyLines "managementThreadPoolSize" c.managementThreadPoolSize ++
    propertyLines "igfsThreadPoolSize" c.igfsThreadPoolSize

/-- The groups of properties of a node, whether or not it is a client. -/
def nodeGroups (c : ClusterConfig) : List (List Line) :=
  [ discoveryLines c.discovery,
    atomicLines c,
    nodeNetworkLines c,
    propertyLines "deploymentMode" c.deploymentMode,
    eventLines c.includeEventTypes,
    marshallerLines c.marshaller,
    nodeMarshallingLines c,
    nodeMetricsLines c,
    nodeClassLoadingLines c,
    swapSpaceLines c.swapSpaceSpi,
    nodeTimeLines c,
    nodeThreadPoolLines c,
    transactionLines c,
    cachesLines c.caches ]

def nodeLines (c : ClusterConfig) (client : Bool) : List Line :=
  beanAround nodeClass (spaced (clientModeLines client :: nodeGroups c))

/-- The near cache of a client and a blank line. -/
def clientNearLines (clientNear : Option NearCacheConfig) : List Line :=
  clientNear.toList.flatMap fun near => nearBeanLines (some nearCacheId) (some near) ++ [.blank]

end GridBeans.Generation
