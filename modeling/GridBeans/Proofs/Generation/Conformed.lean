import GridBeans.Proofs.Generation.Conforming
import GridBeans.Proofs.Generation.Groups

/-!
# Documents of beans

Every outline conforms: its lines write properties whose names are known beforehand, and these names
differ within each bean. So every generated document has the shape of a document of beans, whatever
settings are given.
-/
namespace GridBeans.Generation

open GridBeans.Xml GridBeans.Markup GridBeans.Config GridBeans.Catalogue GridBeans.Json

/-! ## Properties and beans -/

section

variable {tags names : List String} {inside : List Line}

/-- A single value is what an element without a value attribute may hold. -/
theorem valueOrChild_one {attributes : List (String × String)} (one : ShowsOne valueTags inside)
    (noValue : ¬ Given "value" attributes) : ValueOrChild attributes (nodesOf inside) := by
  obtain ⟨child, same⟩ := one.one
  refine .inr ⟨noValue, child, same, ?_⟩
  rw [← same]
  exact one.tagged

/-- A property around a single value is listed under its own name. -/
theorem propertyAround_lists (name : String) (one : ShowsOne valueTags inside) :
    Lists [name] (propertyAround name inside) := by
  have conforms : Conforms (.element "property" [("name", name)] (nodesOf inside)) :=
    .property List.mem_cons_self (valueOrChild_one one (by simp [Given]))
  refine ⟨(ShowsOne.around List.mem_cons_self one.toShows conforms).toShows, ?_⟩
  rw [propertyAround, nodesOf_elementLines _ _ one.whole]
  exact List.Sublist.refl _

theorem propertyLines_lists {α : Type} [PropertyValue α] (name : String) (value : Option α) :
    Lists [name] (propertyLines name value) := by
  cases value with
  | none => exact ⟨.nil, List.nil_sublist _⟩
  | some a =>
    have conforms : Conforms (.element "property"
        [("name", name), ("value", (PropertyValue.attributeValue a).text)] []) :=
      .property List.mem_cons_self (.inl ⟨by simp [Given], rfl⟩)
    exact ⟨(ShowsOne.emptyTag List.mem_cons_self conforms).toShows, List.Sublist.refl _⟩

/-- A bean around properties with different names is a single bean of the form it should have. -/
theorem beanAround_shows (className : String) (isTag : "bean" ∈ tags) (lists : Lists names inside)
    (noneTwice : names.Nodup) : ShowsOne tags (beanAround className inside) :=
  .around isTag lists.toShows (.bean List.mem_cons_self (.inl (lists.distinct noneTwice)))

theorem beanTag_shows (className : AttributeValue) (isTag : "bean" ∈ tags) :
    ShowsOne tags (pieceLines [beanTag className]) :=
  .emptyTag isTag (.bean List.mem_cons_self (.inr (List.forall_mem_nil _)))

theorem constantTag_shows (className name : String) (isTag : "util:constant" ∈ tags) :
    ShowsOne tags (pieceLines [constantTag className name]) :=
  .emptyTag isTag (.constant List.mem_cons_self)

theorem containerLines_lists (name : String) {container : String} (isValue : container ∈ valueTags)
    (conforms : ∀ {children}, Tagged tags children → Conforms (.element container [] children))
    (shows : Shows tags inside) : Lists [name] (containerLines name container inside) :=
  .ite _ ⟨.nil, List.nil_sublist _⟩
    (propertyAround_lists name (.around isValue shows (conforms shows.tagged)))

theorem valueLeaf_shows (text : String) : ShowsOne itemTags (pieceLines [valueLeaf text]) :=
  .leaf (by decide) (.value text)

/-- A list of values. -/
theorem listLines_lists (name : String) (items : List String) :
    Lists [name] (listLines name "list" items) :=
  containerLines_lists name (by decide) .list (.rows items valueLeaf_shows)

/-- An array of values. -/
theorem arrayLines_lists (name : String) (items : List String) :
    Lists [name] (listLines name "array" items) :=
  containerLines_lists name (by decide) .array (.rows items valueLeaf_shows)

end

/-! ## Beans of a shape -/

theorem valueLines_lists (f : FieldShape) (v : Value) :
    Lists [f.propertyName] (f.valueLines v) := by
  unfold FieldShape.valueLines
  cases f.kind with
  | scalar => exact propertyLines_lists _ _
  | list => exact listLines_lists _ _
  | classNameRef =>
    cases v with
    | string name =>
      exact .ite _ .nil (propertyAround_lists _ (beanTag_shows _ (by decide)))
    | null | bool | number | array | object => exact .nil
  | propertyBag =>
    refine containerLines_lists _ (by decide) .props (.rows _ fun entry => ?_)
    exact .leaf List.mem_cons_self (.prop entry.2 List.mem_cons_self)

theorem fieldLines_lists (f : FieldShape) (members : List (String × Value)) :
    Lists [f.propertyName] (f.lines members) := by
  refine .ite _ ?_ .nil
  cases member? f.name members with
  | none => exact .nil
  | some v =>
    rw [Option.toList_some, List.flatMap_singleton]
    exact valueLines_lists f v

theorem fieldsLines_lists (fields : List FieldShape) (members : List (String × Value)) :
    Lists (fields.map FieldShape.propertyName) (fields.flatMap (·.lines members)) :=
  .flatMap fun f _ => fieldLines_lists f members

/-- The fields of a shape set different properties. -/
def BeanShape.NoneTwice (shape : BeanShape) : Prop :=
  (shape.fields.map FieldShape.propertyName).Nodup

instance (shape : BeanShape) : Decidable shape.NoneTwice :=
  inferInstanceAs (Decidable (List.Nodup _))

/-- The bean of a shape stands under one property, and no property is set twice inside it. -/
theorem shapedLines_lists (name : String) {shape : BeanShape} (members : List (String × Value))
    (force : Bool) (noneTwice : shape.NoneTwice) :
    Lists [name] (shapedLines name shape members force) := by
  have bean : ShowsOne valueTags
      (beanAround shape.className (shape.fields.flatMap (·.lines members))) :=
    beanAround_shows shape.className (by decide) (fieldsLines_lists _ members) noneTwice
  refine .ite _ (propertyAround_lists name bean) (.ite _ ?_ .nil)
  exact propertyAround_lists name (beanTag_shows _ (by decide))

theorem chosenLines_lists {κ : Type} {name : String} (kind : Option String)
    (ofName : String → Except Failure κ) {lines : κ → List Line}
    (each : ∀ k, Lists [name] (lines k)) : Lists [name] (chosenLines kind ofName lines) := by
  unfold chosenLines
  split
  · exact .nil
  · split
    · exact each _
    · exact .nil

/-- A part of a section that may not be given is listed under one name, if it is for every section.
-/
theorem sectionLines_lists {α : Type} {name : String} (given : Option α) {lines : α → List Line}
    (each : ∀ a, Lists [name] (lines a)) : Lists [name] (given.toList.flatMap lines) := by
  cases given with
  | none => exact .nil
  | some a =>
    rw [Option.toList_some, List.flatMap_singleton]
    exact each a

theorem evictionLines_lists (policy : Option EvictionPolicyConfig) (name : String) :
    Lists [name] (evictionLines policy name) :=
  have noneTwice : ∀ k : EvictionKind, k.shape.NoneTwice := fun k => by cases k <;> decide
  sectionLines_lists policy fun _ => chosenLines_lists _ _ fun k =>
    shapedLines_lists name _ true (noneTwice k)

theorem storeLines_lists (factory : Option StoreFactoryConfig) :
    Lists ["cacheStoreFactory"] (storeLines factory) :=
  have noneTwice : ∀ k : StoreKind, k.shape.NoneTwice := fun k => by cases k <;> decide
  sectionLines_lists factory fun _ => chosenLines_lists _ _ fun k =>
    shapedLines_lists "cacheStoreFactory" _ true (noneTwice k)

theorem marshallerLines_lists (config : Option MarshallerConfig) :
    Lists ["marshaller"] (marshallerLines config) :=
  have noneTwice : ∀ k : MarshallerKind, k.shape.NoneTwice := fun k => by cases k <;> decide
  sectionLines_lists config fun _ => chosenLines_lists _ _ fun k =>
    shapedLines_lists "marshaller" _ true (noneTwice k)

theorem swapSpaceLines_lists (config : Option SwapSpaceSpiConfig) :
    Lists ["swapSpaceSpi"] (swapSpaceLines config) :=
  sectionLines_lists config fun _ => .ite _ (shapedLines_lists _ _ true (by decide)) .nil

/-! ## Discovery and event types -/

def finderNames : FinderKind → List String
  | .multicast => ["multicastGroup", "multicastPort", "responseWaitTime", "addressRequestAttempts",
      "localAddress"]
  | .vm => ["addresses"]
  | .s3 => ["bucketName"]
  | .cloud => ["credential", "credentialPath", "identity", "provider", "regions", "zones"]
  | .googleStorage => ["projectName", "bucketName", "serviceAccountP12FilePath", "serviceAccountId"]
  | .jdbc => ["initSchema"]
  | .sharedFs => ["path"]

/-- Every finder is a single bean whose properties have different names. -/
theorem finderLines_shows (finder : IpFinder) : ShowsOne valueTags (finderLines finder) := by
  have bean : ∀ {inside : List Line}, Lists (finderNames finder.kind) inside →
      ShowsOne valueTags (beanAround finder.kind.className inside) := fun lists =>
    have noneTwice : ∀ k : FinderKind, (finderNames k).Nodup := fun k => by cases k <;> decide
    beanAround_shows _ (by decide) lists (noneTwice finder.kind)
  have bare : ShowsOne valueTags (bareBean finder.kind.className) := beanTag_shows _ (by decide)
  cases finder with
  | multicast m =>
    simp only [finderLines, List.append_assoc]
    refine bean ?_
    iterate 4 refine (propertyLines_lists _ _).next ?_
    exact propertyLines_lists _ _
  | vm v =>
    simp only [finderLines]
    split
    · exact bare
    · exact bean (listLines_lists _ _)
  | s3 s => exact bean (propertyLines_lists _ _)
  | cloud c =>
    simp only [finderLines, List.append_assoc]
    refine bean ?_
    iterate 4 refine (propertyLines_lists _ _).next ?_
    exact (listLines_lists _ _).next (listLines_lists _ _)
  | googleStorage g =>
    simp only [finderLines, List.append_assoc]
    refine bean ?_
    iterate 3 refine (propertyLines_lists _ _).next ?_
    exact propertyLines_lists _ _
  | jdbc j => exact bean (propertyLines_lists _ _)
  | sharedFs f =>
    simp only [finderLines]
    split
    · exact bean (propertyLines_lists _ _)
    · exact bare

/-- Discovery is one property around a bean around the property of its finder. -/
theorem discoveryLines_lists (config : Option DiscoveryConfig) :
    Lists ["discoverySpi"] (discoveryLines config) := by
  refine sectionLines_lists config fun d => ?_
  split
  · rename_i finder _
    have finderProperty := propertyAround_lists "ipFinder" (finderLines_shows finder)
    exact propertyAround_lists "discoverySpi"
      (beanAround_shows _ (by decide) finderProperty (List.nodup_singleton _))
  · exact .nil

theorem groupEventLines_shows (g : EventGroup) : Shows itemTags (groupEventLines g) :=
  (Shows.comment _).append (.rows g.events fun name => constantTag_shows _ name (by decide))

theorem eventGroupLines_shows (groups : List EventGroup) :
    ShowsOne valueTags (eventGroupLines groups) := by
  unfold eventGroupLines
  split
  · exact constantTag_shows _ _ (by decide)
  · have each : Shows itemTags (groups.flatMap groupEventLines) :=
      .flatMap fun g _ => groupEventLines_shows g
    have shows : Shows itemTags (spaced (groups.map groupEventLines)) :=
      .spaced (by rwa [← List.flatMap_def])
    exact .around (by decide) shows (.array shows.tagged)

/-- Events are one property, which holds a single constant or an array of them. -/
theorem eventLines_lists (names : List String) :
    Lists ["includeEventTypes"] (eventLines names) := by
  refine .ite _ .nil ?_
  split
  · exact propertyAround_lists _ (eventGroupLines_shows _)
  · exact .nil

/-! ## Type entries -/

theorem databaseFieldLines_shows (f : DatabaseField) :
    ShowsOne itemTags (databaseFieldLines f) := by
  have lists : Lists ["databaseName", "databaseType", "javaName", "javaType"]
      (propertyLines "databaseName" f.databaseName ++
        (propertyAround "databaseType" (pieceLines [constantTag "java.sql.Types" f.databaseType]) ++
        (propertyLines "javaName" f.javaName ++ classLines "javaType" f.javaType))) := by
    refine (propertyLines_lists _ _).next (.next ?_ ((propertyLines_lists _ _).next ?_))
    · exact propertyAround_lists _ (constantTag_shows _ _ (by decide))
    · exact propertyLines_lists _ _
  simp only [databaseFieldLines, List.append_assoc]
  exact beanAround_shows _ (by decide) lists (by decide)

theorem databaseFieldsLines_lists (name : String) (fields : List DatabaseField) :
    Lists [name] (databaseFieldsLines name fields) :=
  containerLines_lists name (by decide) .list
    (.flatMap fun f _ => (databaseFieldLines_shows f).toShows)

theorem queryFieldsLines_lists (name : String) (fields : List QueryField) :
    Lists [name] (queryFieldsLines name fields) := by
  refine containerLines_lists name (by decide) .map (.rows fields fun f => ?_)
  exact .emptyTag List.mem_cons_self
    (.entry List.mem_cons_self (.inl ⟨by simp [Given, attr, Attribute.stated], rfl⟩))

/-- An entry around a single value is an entry of the form it should have. -/
theorem entryAround_shows (key : String) {inside : List Line} (one : ShowsOne valueTags inside) :
    ShowsOne ["entry"] (elementLines "entry" [attr "key" key] inside) :=
  .around List.mem_cons_self one.toShows
    (.entry List.mem_cons_self (valueOrChild_one one (by simp [Given, attr, Attribute.stated])))

theorem groupFieldLines_shows (f : GroupField) : ShowsOne ["entry"] (groupFieldLines f) := by
  have argument : ∀ value, ShowsOne ["constructor-arg"]
      (pieceLines [.emptyTag "constructor-arg" [⟨"value", value⟩]]) := fun value =>
    .emptyTag List.mem_cons_self (.constructorArg List.mem_cons_self)
  have arguments := (argument (.plain (resolveClassName f.className))).toShows.append
    (argument (PropertyValue.attributeValue f.direction)).toShows
  exact entryAround_shows f.name
    (.around (by decide) arguments (.bean List.mem_cons_self (.inr arguments.tagged)))

theorem fieldGroupLines_shows (g : FieldGroup) : ShowsOne ["entry"] (fieldGroupLines g) := by
  have fields : Shows ["entry"] (g.fields.flatMap groupFieldLines) :=
    .flatMap fun f _ => (groupFieldLines_shows f).toShows
  exact entryAround_shows g.name (.around (by decide) fields (.map fields.tagged))

/-- The properties of the table of a type and of its columns. -/
def databaseNames : List String :=
  ["databaseSchema", "databaseTable", "keyFields", "valueFields"]

/-- The properties of what can be queried of a type. -/
def queryNames : List String :=
  ["queryFields", "ascendingFields", "descendingFields", "textFields", "groups"]

theorem databaseSideLines_lists (t : TypeMetadata) : Lists databaseNames (databaseSideLines t) := by
  simp only [databaseSideLines, List.append_assoc]
  refine (propertyLines_lists _ _).next ((propertyLines_lists _ _).next (.next ?_ ?_))
  · exact .ite _ (databaseFieldsLines_lists _ _) .nil
  · exact databaseFieldsLines_lists _ _

theorem groupsLines_lists (groups : List FieldGroup) :
    Lists ["groups"] (containerLines "groups" "map" (groups.flatMap fieldGroupLines)) :=
  containerLines_lists _ (by decide) .map (.flatMap fun g _ => (fieldGroupLines_shows g).toShows)

theorem querySideLines_lists (t : TypeMetadata) : Lists queryNames (querySideLines t) := by
  simp only [querySideLines, List.append_assoc]
  iterate 3 refine (queryFieldsLines_lists _ _).next ?_
  exact (listLines_lists _ _).next (groupsLines_lists _)

/-- A type is a single bean whose parts set different properties. -/
theorem typeEntryLines_shows (t : TypeMetadata) : ShowsOne itemTags (typeEntryLines t) := by
  have lists : Lists ("keyType" :: "valueType" :: (databaseNames ++ queryNames))
      (classLines "keyType" t.keyType ++ (propertyLines "valueType" t.valueType ++
        ((if t.kind ≠ some .query then databaseSideLines t else []) ++
          if t.kind ≠ some .store then querySideLines t else []))) := by
    refine (propertyLines_lists _ _).next ((propertyLines_lists _ _).next (.append ?_ ?_))
    · exact .ite _ (databaseSideLines_lists t) .nil
    · exact .ite _ (querySideLines_lists t) .nil
  simp only [typeEntryLines, List.append_assoc]
  exact beanAround_shows _ (by decide) lists (by decide)

theorem typeEntriesLines_lists (types others : List TypeMetadata) :
    Lists ["typeMetadata"] (typeEntriesLines types others) :=
  containerLines_lists _ (by decide) .list
    (.flatMap fun t _ => (typeEntryLines_shows t).toShows)

/-! ## Caches -/

theorem nearLines_lists (near : Option NearCacheConfig) :
    Lists ["nearStartSize", "nearEvictionPolicy"] (near.toList.flatMap nearLines) := by
  cases near with
  | none => exact .nil
  | some n =>
    rw [Option.toList_some, List.flatMap_singleton]
    exact (propertyLines_lists _ _).next (evictionLines_lists _ _)

/-- A near cache is a single bean, with an id where it stands on its own. -/
theorem nearBeanLines_shows {tags : List String} (isTag : "bean" ∈ tags) (id : Option String)
    (near : Option NearCacheConfig) : ShowsOne tags (nearBeanLines id near) := by
  have lists := nearLines_lists near
  have given : Given "class"
      ((id.toList.map (writtenAttr "id") ++ [writtenAttr "class" nearCacheClass]).map
        Attribute.stated) := by
    simp [Given, writtenAttr, Attribute.stated]
  exact .around isTag lists.toShows (.bean given (.inl (lists.distinct (by decide))))

/-- The names of the properties of a cache, group by group. -/
def cacheNames : List (List String) :=
  [ ["name"],
    ["cacheMode", "atomicityMode", "backups", "readFromBackup", "startSize"],
    ["memoryMode", "offHeapMaxMemory", "swapEnabled", "copyOnRead"],
    ["evictionPolicy"],
    ["nearConfiguration"],
    ["sqlEscapeAll", "sqlOnheapRowCacheSize", "longQueryWarningTimeout", "indexedTypes",
      "sqlFunctionClasses"],
    ["rebalanceMode", "rebalanceThreadPoolSize", "rebalanceBatchSize", "rebalanceOrder",
      "rebalanceDelay", "rebalanceTimeout", "rebalanceThrottle"],
    ["cacheStoreFactory"],
    ["loadPreviousValue", "readThrough", "writeThrough"],
    ["invalidate", "defaultLockTimeout", "transactionManagerLookupClassName"],
    ["writeBehindEnabled", "writeBehindBatchSize", "writeBehindFlushSize",
      "writeBehindFlushFrequency", "writeBehindFlushThreadCount"],
    ["statisticsEnabled", "managementEnabled"],
    ["maxConcurrentAsyncOperations", "typeMetadata"] ]

theorem cacheLayoutLines_lists (c : CacheConfig) :
    Lists ["cacheMode", "atomicityMode", "backups", "readFromBackup", "startSize"]
      (cacheLayoutLines c) := by
  simp only [cacheLayoutLines, List.append_assoc]
  refine (propertyLines_lists _ _).next ((propertyLines_lists _ _).next (.next ?_ ?_))
  · exact .ite _ (propertyLines_lists _ _) .nil
  · exact (propertyLines_lists _ _).next (propertyLines_lists _ _)

theorem cacheQueriesLines_lists (c : CacheConfig) :
    Lists ["sqlEscapeAll", "sqlOnheapRowCacheSize", "longQueryWarningTimeout", "indexedTypes",
      "sqlFunctionClasses"] (cacheQueriesLines c) := by
  simp only [cacheQueriesLines, List.append_assoc]
  iterate 3 refine (propertyLines_lists _ _).next ?_
  exact (listLines_lists _ _).next (arrayLines_lists _ _)

theorem cacheRebalanceLines_lists (c : CacheConfig) :
    Lists ["rebalanceMode", "rebalanceThreadPoolSize", "rebalanceBatchSize", "rebalanceOrder",
      "rebalanceDelay", "rebalanceTimeout", "rebalanceThrottle"] (cacheRebalanceLines c) := by
  simp only [cacheRebalanceLines, List.append_assoc]
  refine .ite _ .nil ?_
  iterate 6 refine (propertyLines_lists _ _).next ?_
  exact propertyLines_lists _ _

theorem cacheNearLines_lists (c : CacheConfig) : Lists ["nearConfiguration"] (cacheNearLines c) :=
  .ite _ (propertyAround_lists _ (nearBeanLines_shows (by decide) _ _)) .nil

/-- Each group of a cache writes only the properties that are its own, in their order. -/
theorem cacheGroups_lists (c : CacheConfig) : List.Forall₂ Lists cacheNames (cacheGroups c) := by
  refine .cons (propertyLines_lists _ _) <| .cons (cacheLayoutLines_lists c) <| .cons ?memory <|
    .cons (evictionLines_lists _ _) <| .cons (cacheNearLines_lists c) <|
    .cons (cacheQueriesLines_lists c) <| .cons (cacheRebalanceLines_lists c) <|
    .cons (storeLines_lists _) <| .cons ?through <| .cons ?locking <| .cons ?writeBehind <|
    .cons ?statistics <| .cons ?last .nil
  case last => exact (propertyLines_lists _ _).next (typeEntriesLines_lists _ _)
  -- The other groups are made of properties with a value each.
  all_goals simp only [cacheMemoryLines, cacheThroughLines, cacheLockingLines,
    cacheWriteBehindLines, cacheStatisticsLines, List.append_assoc]
  all_goals repeat' first
    | exact propertyLines_lists _ _
    | refine (propertyLines_lists _ _).next ?_

/-- No property is set in two groups of a cache, nor twice in one of them. -/
theorem cacheNames_distinct : cacheNames.flatten.Nodup := by decide

/-- A cache is a single bean in which every property occurs at most once. -/
theorem cacheLines_shows (c : CacheConfig) : ShowsOne itemTags (cacheLines c) :=
  beanAround_shows _ (by decide) (.spaced (cacheGroups_lists c)) cacheNames_distinct

/-! ## Nodes -/

theorem spacedCaches_shows (caches : List CacheConfig) :
    Shows itemTags (spaced (caches.map cacheLines)) := by
  have each : Shows itemTags (caches.flatMap cacheLines) :=
    .flatMap fun c _ => (cacheLines_shows c).toShows
  exact .spaced (by rwa [← List.flatMap_def])

theorem cachesLines_lists (caches : List CacheConfig) :
    Lists ["cacheConfiguration"] (cachesLines caches) :=
  containerLines_lists _ (by decide) .list (spacedCaches_shows caches)

/-- The names of the properties of a node, group by group. -/
def nodeNames : List (List String) :=
  [ ["clientMode"],
    ["discoverySpi"],
    ["atomicConfiguration"],
    ["networkTimeout", "networkSendRetryDelay", "networkSendRetryCount", "segmentCheckFrequency",
      "waitForSegmentOnStart", "discoveryStartupDelay"],
    ["deploymentMode"],
    ["includeEventTypes"],
    ["marshaller"],
    ["marshalLocalJobs", "marshallerCacheKeepAliveTime", "marshallerCacheThreadPoolSize"],
    ["metricsExpireTime", "metricsHistorySize", "metricsLogFrequency", "metricsUpdateFrequency"],
    ["peerClassLoadingEnabled", "peerClassLoadingLocalClassPathExclude",
      "peerClassLoadingMissedResourcesCacheSize", "peerClassLoadingThreadPoolSize"],
    ["swapSpaceSpi"],
    ["clockSyncSamples", "clockSyncFrequency", "timeServerPortBase", "timeServerPortRange"],
    ["publicThreadPoolSize", "systemThreadPoolSize", "managementThreadPoolSize",
      "igfsThreadPoolSize"],
    ["transactionConfiguration"],
    ["cacheConfiguration"] ]

/-- Each group of a node writes only the properties that are its own, the mode of a client ahead of
them. -/
theorem nodeGroups_lists (c : ClusterConfig) (client : Bool) :
    List.Forall₂ Lists nodeNames (clientModeLines client :: nodeGroups c) := by
  refine .cons (.ite _ (propertyLines_lists _ _) .nil) <| .cons (discoveryLines_lists _) <|
    .cons (shapedLines_lists _ _ _ (by decide)) <| .cons ?network <|
    .cons (propertyLines_lists _ _) <| .cons (eventLines_lists _) <|
    .cons (marshallerLines_lists _) <| .cons ?marshalling <| .cons ?metrics <|
    .cons ?classLoading <| .cons (swapSpaceLines_lists _) <| .cons ?time <| .cons ?threadPools <|
    .cons (shapedLines_lists _ _ _ (by decide)) <| .cons (cachesLines_lists _) .nil
  case classLoading =>
    simp only [nodeClassLoadingLines, List.append_assoc]
    refine (propertyLines_lists _ _).next ((listLines_lists _ _).next ?_)
    exact (propertyLines_lists _ _).next (propertyLines_lists _ _)
  all_goals simp only [nodeNetworkLines, nodeMarshallingLines, nodeMetricsLines, nodeTimeLines,
    nodeThreadPoolLines, List.append_assoc]
  all_goals repeat' first
    | exact propertyLines_lists _ _
    | refine (propertyLines_lists _ _).next ?_

/-- No property is set in two groups of a node, nor twice in one of them. -/
theorem nodeNames_distinct : nodeNames.flatten.Nodup := by decide

theorem nodeLines_shows (c : ClusterConfig) (client : Bool) :
    ShowsOne ["bean"] (nodeLines c client) :=
  beanAround_shows _ List.mem_cons_self (.spaced (nodeGroups_lists c client)) nodeNames_distinct

theorem clientNearLines_shows (clientNear : Option NearCacheConfig) :
    Shows ["bean"] (clientNearLines clientNear) := by
  refine .flatMap fun near _ => ?_
  exact (nearBeanLines_shows List.mem_cons_self _ _).toShows.append .blank

/-! ## Documents -/

/-- A bean of properties with a value each conforms if their names differ. -/
theorem plainBean_conforms {attributes : List (String × String)} (given : Given "class" attributes)
    {properties : List (String × String)} (noneTwice : (properties.map Prod.fst).Nodup) :
    ∀ node ∈ (Node.element "bean" attributes
      (properties.map fun p => propertyNode p.1 p.2)).all, Conforms node := by
  have names : (properties.map fun p => propertyNode p.1 p.2).map (attribute? "name") =
      (properties.map Prod.fst).map some := by
    rw [List.map_map, List.map_map]
    rfl
  have tagged : Tagged ["property"] (properties.map fun p => propertyNode p.1 p.2) := by
    refine List.forall_mem_map.mpr fun p _ => ⟨"property", List.mem_cons_self, rfl⟩
  have distinct : DistinctProperties (properties.map fun p => propertyNode p.1 p.2) := by
    refine ⟨tagged, ?_⟩
    rw [names]
    exact noneTwice.map fun _ _ => Option.some.inj
  rw [Node.all]
  refine List.forall_mem_cons.mpr ⟨.bean given (.inl distinct), ?_⟩
  refine forall_mem_allOf.mpr (List.forall_mem_map.mpr fun p _ => ?_)
  exact List.forall_mem_singleton.mpr
    (.property List.mem_cons_self (.inl ⟨by simp [Given], rfl⟩))

/-- The bean of a data source and everything inside it have the form that their elements should
have. -/
theorem sourceNode_conforms (s : DataSource) : ∀ node ∈ (sourceNode s).all, Conforms node := by
  have noneTwice : ((["URL", "user", "password"].zip
      ((credentialKeys s).map referenceTo)).map Prod.fst).Nodup := by
    show ["URL", "user", "password"].Nodup
    decide
  exact plainBean_conforms (by simp [Given]) noneTwice

theorem loaderNode_conforms (options : DocumentOptions) :
    ∀ node ∈ (loaderNode options).all, Conforms node := by
  have noneTwice : ([("location", options.propertiesLocation)].map Prod.fst).Nodup :=
    List.nodup_singleton _
  exact plainBean_conforms (by simp [Given]) noneTwice

/-- The beans ahead of a node have the form that their elements should have. -/
theorem preambleNodes_conform (options : DocumentOptions) (sources : List DataSource) :
    Tagged ["bean"] (preambleNodes options sources) ∧
      ∀ node ∈ allOf (preambleNodes options sources), Conforms node := by
  rw [forall_mem_allOf, preambleNodes]
  split
  · exact ⟨List.forall_mem_nil _, List.forall_mem_nil _⟩
  · constructor
    · refine List.forall_mem_cons.mpr ⟨⟨"bean", List.mem_cons_self, rfl⟩, ?_⟩
      exact List.forall_mem_map.mpr fun s _ => ⟨"bean", List.mem_cons_self, rfl⟩
    · refine List.forall_mem_cons.mpr ⟨loaderNode_conforms options, ?_⟩
      exact List.forall_mem_map.mpr fun s _ => sourceNode_conforms s

/-- The near cache of a client and the node, from their outline. -/
theorem nodeNodes_eq {c : ClusterConfig} {clientNear : Option NearCacheConfig}
    (succeeds : (nodeBeans c clientNear).failure? = none) :
    nodeNodes c clientNear =
      nodesOf (clientNearLines clientNear ++ nodeLines c clientNear.isSome) := by
  rw [← forest_nodeBeans succeeds, pieces_nodeBeans succeeds, nodesOf]

/-- Every generated document is read as a tree whose root holds beans, and each node in it has the
attributes and the children that its element should have. -/
theorem generated_conforms (c : ClusterConfig) (clientNear : Option NearCacheConfig)
    (options : DocumentOptions) (text : String)
    (generated : clusterDocument c clientNear options = .ok text) :
    ∃ root, readDocument text = some root ∧ root.tag? = some "beans" ∧
      ∀ node ∈ root.all, Conforms node := by
  have fine := (clusterDocument_ok_iff c clientNear options).mp ⟨text, generated⟩
  have succeeds : (nodeBeans c clientNear).failure? = none := by
    rw [failure?_nodeBeans, fine, List.head?_nil]
  obtain ⟨aheadTagged, aheadConform⟩ :=
    preambleNodes_conform options (firstById (references c.caches))
  have node : Shows ["bean"] (clientNearLines clientNear ++ nodeLines c clientNear.isSome) :=
    (clientNearLines_shows clientNear).append (nodeLines_shows c clientNear.isSome).toShows
  refine ⟨_, clusterDocument_beans generated, rfl, ?_⟩
  rw [documentNode, Node.all, allOf_append, nodeNodes_eq succeeds]
  refine List.forall_mem_cons.mpr ⟨.beans ?_, ?_⟩
  · exact List.forall_mem_append.mpr ⟨aheadTagged, node.tagged⟩
  · exact List.forall_mem_append.mpr ⟨aheadConform, node.conforms⟩

/-- A document with data sources and a client, in which every node is as its element should be. -/
theorem sharingCluster_conforms :
    ∃ text root, clusterDocument sharingCluster (some unsetNear) .default = .ok text ∧
      readDocument text = some root ∧ root.tag? = some "beans" ∧
      ∀ node ∈ root.all, Conforms node := by
  obtain ⟨text, generated⟩ := (clusterDocument_ok_iff sharingCluster (some unsetNear) .default).mpr
    faults_sharingCluster
  obtain ⟨root, reads, conforms⟩ :=
    generated_conforms sharingCluster (some unsetNear) .default text generated
  exact ⟨text, root, generated, reads, conforms⟩

end GridBeans.Generation
