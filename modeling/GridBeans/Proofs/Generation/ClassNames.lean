import GridBeans.Proofs.Generation.TypeBeans
import GridBeans.Proofs.Qualified

/-!
# Names of classes in generated documents

A class may be given by a short name, and a document should hold its full name. It does for keys,
columns, fields that can be queried, fields of group indexes and indexed types: a reader finds there
what the names given resolve to. The class of the values of a type is written as it is given, so a
short name in a document is always one of those.
-/
namespace GridBeans.Config

/-! ## Classes given -/

/-- The classes that a type gives, those of its values excepted. -/
def TypeMetadata.classes (t : TypeMetadata) : List String :=
  t.keyType.toList ++ ((t.keyFields ++ t.valueFields).flatMap fun f => f.javaType.toList) ++
    (t.queryFields ++ t.ascendingFields ++ t.descendingFields).map QueryField.className ++
    t.groups.flatMap fun g => g.fields.map GroupField.className

/-- The types of a cache that count. -/
def CacheConfig.types (c : CacheConfig) : List TypeMetadata :=
  firstOfName (c.queryMetadata ++ c.storeMetadata)

/-- The classes in effect in a cache, those of values excepted. -/
def CacheConfig.classes (c : CacheConfig) : List String :=
  (c.indexedTypes.flatMap fun t => [t.keyClass, t.valueClass]) ++
    c.types.flatMap fun t => t.effective.classes

def CacheConfig.valueClasses (c : CacheConfig) : List String :=
  c.types.flatMap fun t => t.valueType.toList

end GridBeans.Config

namespace GridBeans.Generation

open GridBeans.Xml GridBeans.Markup GridBeans.Config GridBeans.Catalogue

/-! ## Classes found -/

def textsOf (node : Node) : List String :=
  node.children.filterMap fun child =>
    match child with
    | .text content => some content
    | .element .. => none

def columnClasses (type : Node) : List String :=
  (heldItems "keyFields" type ++ heldItems "valueFields" type).flatMap (valuesOf "javaType")

/-- The classes of the fields of a type that can be queried. -/
def queryClasses (type : Node) : List String :=
  (heldItems "queryFields" type ++ heldItems "ascendingFields" type ++
    heldItems "descendingFields" type).filterMap (attribute? "value")

/-- The class of a field of a group index is the first argument of its tuple. -/
def groupFieldClasses (entry : Node) : List String :=
  entry.children.filterMap fun tuple => tuple.children.head?.bind (attribute? "value")

/-- The classes of the fields of the group indexes of a type. -/
def groupClasses (type : Node) : List String :=
  ((heldItems "groups" type).flatMap Node.children).flatMap fun map =>
    map.children.flatMap groupFieldClasses

/-- The classes that the bean of a type states, those of its values excepted. -/
def typeClasses (type : Node) : List String :=
  valuesOf "keyType" type ++ columnClasses type ++ queryClasses type ++ groupClasses type

/-- The classes that the bean of a cache states, those of values excepted. -/
def statedClasses (cache : Node) : List String :=
  (heldItems "indexedTypes" cache).flatMap textsOf ++
    (heldItems "typeMetadata" cache).flatMap typeClasses

/-- The classes of values that the bean of a cache states. -/
def statedValueClasses (cache : Node) : List String :=
  (heldItems "typeMetadata" cache).flatMap (valuesOf "valueType")

/-! ## Types -/

/-- The classes of columns in the bean of a type are those of the columns that count, each one
resolved. -/
theorem columnClasses_typeNode (t : TypeMetadata) :
    columnClasses (typeNode t) =
      ((t.effective.keyFields ++ t.effective.valueFields).flatMap fun f =>
        f.javaType.toList).map resolveClassName := by
  obtain ⟨keys, values, -⟩ := type_items t
  have each : ∀ f : DatabaseField,
      valuesOf "javaType" (columnNode f) = f.javaType.toList.map resolveClassName :=
    fun f => valuesOf_of_class (column_class f)
  rw [columnClasses, keys, values, ← List.map_append, List.flatMap_map, List.map_flatMap]
  simp only [each]

/-- The classes of the fields that can be queried, in the order of the three maps, each one
resolved. -/
theorem queryClasses_typeNode (t : TypeMetadata) :
    queryClasses (typeNode t) =
      ((t.effective.queryFields ++ t.effective.ascendingFields ++
        t.effective.descendingFields).map QueryField.className).map resolveClassName := by
  obtain ⟨-, -, queried, ascending, descending, -⟩ := type_items t
  have each : ∀ f : QueryField,
      attribute? "value" (queryFieldNode f) = some (resolveClassName f.className) := by
    intro f
    simp [queryFieldNode, attribute?]
  rw [queryClasses, queried, ascending, descending, ← List.map_append, ← List.map_append,
    List.filterMap_map, List.map_map]
  simp only [Function.comp_def, each, List.filterMap_eq_map']

/-- Groups without fields give no classes, so it makes no difference that they are left out. -/
theorem flatMap_filled (groups : List FieldGroup) (f : GroupField → String) :
    ((groups.filter fun g => !g.fields.isEmpty).flatMap fun g => g.fields.map f) =
      groups.flatMap fun g => g.fields.map f := by
  induction groups with
  | nil => rfl
  | cons g rest ih =>
    cases fields : g.fields with
    | nil => simp [fields, ih]
    | cons first others => simp [fields, ih]

/-- The classes in group indexes, each one resolved. A group without fields has no class to lose. -/
theorem groupClasses_typeNode (t : TypeMetadata) :
    groupClasses (typeNode t) =
      (t.effective.groups.flatMap fun g => g.fields.map GroupField.className).map
        resolveClassName := by
  obtain ⟨-, -, -, -, -, groups⟩ := type_items t
  have field : ∀ f : GroupField,
      groupFieldClasses (groupFieldNode f) = [resolveClassName f.className] := by
    intro f
    simp [groupFieldClasses, groupFieldNode, Node.children, attribute?]
  have each : ∀ g : FieldGroup, ((fieldGroupNode g).children.flatMap fun map =>
      map.children.flatMap groupFieldClasses) =
        g.fields.map fun f => resolveClassName f.className := by
    intro g
    simp only [fieldGroupNode, Node.children, List.flatMap_singleton, List.flatMap_map, field]
    exact List.flatMap_pure_eq_map _ _
  rw [groupClasses, groups, List.flatMap_map, List.flatMap_assoc]
  simp only [each, flatMap_filled, List.map_flatMap, List.map_map, Function.comp_def]

/-- All classes of a type are resolved in its bean, but for the class of its values, which stands as
given. -/
theorem typeClasses_typeNode (t : TypeMetadata) :
    typeClasses (typeNode t) = t.effective.classes.map resolveClassName ∧
      valuesOf "valueType" (typeNode t) = t.valueType.toList := by
  obtain ⟨key, value⟩ := type_classes t
  refine ⟨?_, ?_⟩
  · rw [typeClasses, valuesOf_of_class key, columnClasses_typeNode, queryClasses_typeNode,
      groupClasses_typeNode]
    simp only [TypeMetadata.classes, List.map_append]
    rfl
  · rw [valuesOf_of_written value]
    exact List.map_id _

/-! ## Caches -/

/-- The types of a cache stand in one list, those that count in their order. -/
theorem cache_types (c : CacheConfig) :
    propertiesNamed "typeMetadata" (cacheNode c).children =
      nodesOf (containerLines "typeMetadata" "list" (c.types.flatMap typeEntryLines)) := by
  have same : typeEntriesLines c.queryMetadata c.storeMetadata =
      containerLines "typeMetadata" "list" (c.types.flatMap typeEntryLines) := by
    rw [typeEntriesLines, firstByName_eq, CacheConfig.types]
    simp
  rw [← same, ← (typeEntriesLines_lists c.queryMetadata c.storeMetadata).alone,
    cache_propertiesNamed]
  simp [cacheNames, cacheGroups, propertiesNamed_next, propertiesNamed_property,
    wholeLines_property]

/-- The indexed types of a cache stand in one list, the two classes of each pair next to each other.
-/
theorem cache_indexedTypes (c : CacheConfig) :
    propertiesNamed "indexedTypes" (cacheNode c).children =
      nodesOf (listLines "indexedTypes" "list" (indexedClasses c.indexedTypes)) := by
  have others : propertiesNamed "indexedTypes"
      (nodesOf (listLines "sqlFunctionClasses" "array" c.sqlFunctionClasses)) = [] :=
    (arrayLines_lists _ _).absent (by decide)
  rw [← (listLines_lists "indexedTypes" (indexedClasses c.indexedTypes)).alone,
    cache_propertiesNamed]
  simp [cacheNames, cacheGroups, cacheQueriesLines, propertiesNamed_next, propertiesNamed_property,
    wholeLines_property, others, (listLines_lists "indexedTypes" _).whole]

/-- The items of a list of values are its texts. -/
theorem valueLeaf_items {name : String} {bean : Node} {items : List String}
    (property : propertiesNamed name bean.children = nodesOf (listLines name "list" items)) :
    (heldItems name bean).flatMap textsOf = items := by
  rw [listLines_items property, List.flatMap_map]
  simp [textsOf, itemNode, Node.children]

/-- The classes that the bean of a cache states are those in effect, each by its full name, but for
those of values, which are as they are given. -/
theorem classes_cacheNode (c : CacheConfig) :
    statedClasses (cacheNode c) = c.classes.map resolveClassName ∧
      statedValueClasses (cacheNode c) = c.valueClasses := by
  have types := heldItems_container typeEntryLines_makes (cache_types c)
  have indexed : indexedClasses c.indexedTypes =
      (c.indexedTypes.flatMap fun t => [t.keyClass, t.valueClass]).map resolveClassName := by
    rw [indexedClasses, List.map_flatMap]
    rfl
  refine ⟨?_, ?_⟩
  · rw [statedClasses, valueLeaf_items (cache_indexedTypes c), types, indexed, CacheConfig.classes,
      List.map_append, List.flatMap_map]
    simp only [typeClasses_typeNode, List.map_flatMap]
  · rw [statedValueClasses, types, CacheConfig.valueClasses, List.flatMap_map]
    simp only [typeClasses_typeNode]

/-- No short name of a built-in class is stated, but for the classes of values. -/
theorem not_short_of_stated (c : CacheConfig) :
    ∀ name ∈ statedClasses (cacheNode c), name ∉ javaShortNames := by
  intro name stated
  rw [(classes_cacheNode c).1] at stated
  obtain ⟨given, -, rfl⟩ := List.mem_map.mp stated
  exact resolved_not_short given

/-! ## Documents -/

/-- A reader finds in the beans of the caches the classes in effect, each by its full name, but for
those of values, which are as they are given. So a class is stated by the short name of a Java
library class exactly if some type that counts gives the class of its values so. -/
theorem classes_of_document (c : ClusterConfig) (clientNear : Option NearCacheConfig)
    (options : DocumentOptions) (text : String)
    (generated : clusterDocument c clientNear options = .ok text) :
    ∃ root node, readDocument text = some root ∧ root.children.getLast? = some node ∧
      ((cacheBeans node).map statedClasses =
        c.caches.map fun cache => cache.classes.map resolveClassName) ∧
      (cacheBeans node).map statedValueClasses = c.caches.map CacheConfig.valueClasses ∧
      ((∃ cache ∈ cacheBeans node, ∃ name ∈ statedClasses cache ++ statedValueClasses cache,
          name ∈ javaShortNames) ↔
        ∃ cache ∈ c.caches, ∃ name ∈ cache.valueClasses, name ∈ javaShortNames) := by
  obtain ⟨root, reads, last⟩ := clusterDocument_node generated
  refine ⟨root, _, reads, last, ?_, ?_, ?_⟩
  · simp only [cacheBeans_nodeNode, List.map_map, Function.comp_def, classes_cacheNode]
  · simp only [cacheBeans_nodeNode, List.map_map, Function.comp_def, classes_cacheNode]
  · rw [cacheBeans_nodeNode]
    constructor
    · rintro ⟨_, mem, name, stated, short⟩
      obtain ⟨cache, inside, rfl⟩ := List.mem_map.mp mem
      rcases List.mem_append.mp stated with other | value
      · exact absurd short (not_short_of_stated cache name other)
      · rw [(classes_cacheNode cache).2] at value
        exact ⟨cache, inside, name, value, short⟩
    · rintro ⟨cache, inside, name, value, short⟩
      refine ⟨_, List.mem_map_of_mem inside, name, List.mem_append_right _ ?_, short⟩
      rw [(classes_cacheNode cache).2]
      exact value

/-- A cluster with the cache whose types are given by short names. -/
def shortCluster : ClusterConfig :=
  { ClusterConfig.unset with caches := [shortCache] }

/-- A cluster that uses short names: a reader finds qualified names only. -/
theorem shortCluster_classes :
    ∃ text root node, clusterDocument shortCluster none .default = .ok text ∧
      readDocument text = some root ∧ root.children.getLast? = some node ∧
      (cacheBeans node).map statedClasses = [[
        "java.lang.Integer", "java.util.UUID", "java.lang.Integer", "java.lang.Integer",
        "java.lang.Integer", "java.sql.Date", "java.lang.Integer", "java.sql.Date",
        "java.lang.Integer", "java.sql.Date"]] ∧
      ¬ ∃ cache ∈ cacheBeans node, ∃ name ∈ statedClasses cache ++ statedValueClasses cache,
        name ∈ javaShortNames := by
  obtain ⟨text, generated⟩ := (clusterDocument_ok_iff shortCluster none .default).mpr (by decide)
  obtain ⟨root, node, reads, last, classes, -, short⟩ :=
    classes_of_document shortCluster none .default text generated
  refine ⟨text, root, node, generated, reads, last, ?_, ?_⟩
  · rw [classes]
    decide
  · rw [short]
    decide

/-- A cache with a type whose values are given by the short name of their class. -/
def shortValueCache : CacheConfig :=
  { CacheConfig.unset with
    queryMetadata := [
      { namedType "Person" .both with kind := none, valueType := some "Integer" }] }

def shortValueCluster : ClusterConfig :=
  { ClusterConfig.unset with caches := [shortValueCache] }

/-- A short name that is given for the values of a type is found in the document. -/
theorem stated_classes_not_full :
    ¬ ∀ (c : ClusterConfig) (clientNear : Option NearCacheConfig) (options : DocumentOptions)
        (text : String) (root node : Node), clusterDocument c clientNear options = .ok text →
      readDocument text = some root → root.children.getLast? = some node →
      ∀ cache ∈ cacheBeans node, ∀ name ∈ statedClasses cache ++ statedValueClasses cache,
        name ∉ javaShortNames := by
  intro always
  obtain ⟨text, generated⟩ :=
    (clusterDocument_ok_iff shortValueCluster none .default).mpr (by decide)
  obtain ⟨root, reads, last⟩ := clusterDocument_node generated
  have full := always shortValueCluster none .default text root _ generated reads last
  have stated : "Integer" ∈ statedValueClasses (cacheNode shortValueCache) := by
    rw [(classes_cacheNode shortValueCache).2]
    decide
  rw [cacheBeans_nodeNode] at full
  have inDocument : cacheNode shortValueCache ∈ shortValueCluster.caches.map cacheNode :=
    List.mem_map_of_mem (List.mem_singleton_self shortValueCache)
  exact full _ inDocument "Integer" (List.mem_append_right _ stated) (by decide)

end GridBeans.Generation
