import GridBeans.Proofs.Generation.Conformed

/-!
# Looking up properties

The properties of a bean by name, as a reader of a document finds them. A property is looked for in
the group that lists its name and in no other, so what is found does not depend on what else a bean
has.
-/
namespace GridBeans.Xml

def Node.children : Node → List Node
  | .element _ _ children => children
  | .text _ => []

end GridBeans.Xml

namespace GridBeans.Generation

open GridBeans.Xml GridBeans.Markup GridBeans.Config

/-! ## Properties of a bean -/

/-- The properties of a name among nodes. -/
def propertiesNamed (name : String) (nodes : List Node) : List Node :=
  nodes.filter fun node => node.tag? = some "property" ∧ attribute? "name" node = some name

def Has (name : String) (bean : Node) : Prop :=
  propertiesNamed name bean.children ≠ []

/-- The bean has a property of this name with this value. -/
def HasValue (name value : String) (bean : Node) : Prop :=
  ∃ property ∈ propertiesNamed name bean.children, attribute? "value" property = some value

/-- The bean has a property of this name whose value is not blank. -/
def HasText (name : String) (bean : Node) : Prop :=
  ∃ value, HasValue name value bean ∧ Text.isBlank value = false

/-- What stands inside the properties of a name. -/
def held (name : String) (bean : Node) : List Node :=
  (propertiesNamed name bean.children).flatMap Node.children

/-- The bean has a property of this name around a list that is not empty. -/
def HasItem (name : String) (bean : Node) : Prop :=
  ∃ list ∈ held name bean, list.tag? = some "list" ∧ list.children ≠ []

/-! ## Properties on lines -/

section

variable {name : String} {names : List String} {lines front back : List Line}

/-- Properties of lines one after the other are looked for in both. -/
theorem propertiesNamed_next (whole : WholeLines front) :
    propertiesNamed name (nodesOf (front ++ back)) =
      propertiesNamed name (nodesOf front) ++ propertiesNamed name (nodesOf back) := by
  rw [nodesOf_append whole]
  exact List.filter_append _ _

/-- A property that is not among the listed names is not found on the lines. -/
theorem Lists.absent (lists : Lists names lines) (notListed : name ∉ names) :
    propertiesNamed name (nodesOf lines) = [] := by
  refine List.filter_eq_nil_iff.mpr fun node mem isNamed => ?_
  have inNames : some name ∈ (nodesOf lines).map (attribute? "name") :=
    List.mem_map.mpr ⟨node, mem, (decide_eq_true_eq.mp isNamed).2⟩
  obtain ⟨other, listed, same⟩ := List.mem_map.mp (lists.named.subset inNames)
  exact notListed (Option.some.inj same ▸ listed)

/-- Where a single name is listed, what is found under it is all there is. -/
theorem Lists.alone (lists : Lists [name] lines) :
    propertiesNamed name (nodesOf lines) = nodesOf lines := by
  refine List.filter_eq_self.mpr fun node mem => decide_eq_true ⟨?_, ?_⟩
  · obtain ⟨tag, isProperty, same⟩ := lists.tagged node mem
    rw [same, List.mem_singleton.mp isProperty]
  · have inNames := lists.named.subset (List.mem_map_of_mem mem)
    simpa using inNames

/-- A property is found in the groups that list its name. -/
theorem propertiesNamed_spaced {names : List (List String)} {groups : List (List Line)}
    (each : List.Forall₂ Lists names groups) (name : String) :
    propertiesNamed name (nodesOf (spaced groups)) =
      ((names.zip groups).filter fun group => name ∈ group.1).flatMap fun group =>
        propertiesNamed name (nodesOf group.2) := by
  rw [nodesOf_spaced]
  induction each with
  | nil => rfl
  | @cons listed group _ _ lists _ ih =>
    rw [List.flatten_cons, propertiesNamed_next lists.whole, ih, List.zip_cons_cons]
    by_cases inGroup : name ∈ listed
    · rw [List.filter_cons_of_pos (by simpa using inGroup), List.flatMap_cons]
    · rw [List.filter_cons_of_neg (by simpa using inGroup), lists.absent inGroup, List.nil_append]

theorem wholeLines_property {α : Type} [PropertyValue α] (name : String) (value : Option α) :
    WholeLines (propertyLines name value) :=
  (propertyLines_lists name value).whole

/-- A property is found under its own name only, and only if it has a value. -/
theorem propertiesNamed_property {α : Type} [PropertyValue α] (name other : String)
    (value : Option α) :
    propertiesNamed name (nodesOf (propertyLines other value)) =
      if other = name then
        value.toList.map fun a => propertyNode name (PropertyValue.attributeValue a).text
      else [] := by
  have lists := propertyLines_lists other value
  split
  · rename_i same
    subst same
    rw [lists.alone]
    cases value with
    | none => rfl
    | some a => rfl
  · rename_i different
    exact lists.absent (by simpa using Ne.symm different)

end

/-! ## Values -/

section

variable {name : String} {bean : Node}

/-- A setting of a bean that is written as the value of the property of its name. -/
def Written {α : Type} [PropertyValue α] (name : String) (value : Option α) (bean : Node) : Prop :=
  propertiesNamed name bean.children =
    value.toList.map fun a => propertyNode name (PropertyValue.attributeValue a).text

/-- A property that is written has the text of its value, and no other. -/
theorem hasValue_of_written {α : Type} [PropertyValue α] {value : Option α}
    (written : Written name value bean) (text : String) :
    HasValue name text bean ↔ ∃ a ∈ value, (PropertyValue.attributeValue a).text = text := by
  rw [HasValue, written]
  cases value with
  | none => simp
  | some a => simp [propertyNode, attribute?]

/-- A switch is found to be on exactly if it is given and on. -/
theorem hasValue_true_iff {value : Option Bool} (written : Written name value bean) :
    HasValue name "true" bean ↔ value = some true := by
  rw [hasValue_of_written written]
  cases value with
  | none => simp
  | some b => cases b <;> simp [PropertyValue.attributeValue, AttributeValue.text]

/-- Where a property is written for a text that is not blank, a reader finds a text that is not
blank. -/
theorem hasText_of_written {value : Option String} (written : Written name value bean)
    (given : Text.isBlankOrAbsent value = false) : HasText name bean := by
  cases value with
  | none => cases given
  | some text => exact ⟨text, (hasValue_of_written written text).mpr ⟨text, rfl, rfl⟩, given⟩

end

/-! ## Items -/

/-- Lines that write a single node. -/
def Makes (node : Node) (lines : List Line) : Prop :=
  WholeLines lines ∧ nodesOf lines = [node]

/-- Items that write a node each. -/
theorem makes_flatMap {α : Type} {lines : α → List Line} {node : α → Node}
    (each : ∀ a, Makes (node a) (lines a)) (items : List α) :
    WholeLines (items.flatMap lines) ∧ nodesOf (items.flatMap lines) = items.map node := by
  induction items with
  | nil => exact ⟨Whole.nil, rfl⟩
  | cons a rest ih =>
    rw [List.flatMap_cons, nodesOf_append (each a).1, (each a).2, ih.2]
    exact ⟨(each a).1.append ih.1, rfl⟩

/-! ## Beans -/

def beanNode (className : String) (inside : List Line) : Node :=
  .element "bean" [("class", className)] (nodesOf inside)

theorem nodesOf_beanAround {inside : List Line} (className : String) (whole : WholeLines inside) :
    nodesOf (beanAround className inside) = [beanNode className inside] :=
  nodesOf_elementLines _ _ whole

/-- What a property is written around is what it holds. -/
theorem children_propertyAround {inside : List Line} (name : String) (whole : WholeLines inside) :
    (nodesOf (propertyAround name inside)).flatMap Node.children = nodesOf inside := by
  rw [propertyAround, nodesOf_elementLines _ _ whole]
  simp [Node.children]

/-- What stands in a container is found in the property around it. -/
theorem items_containerLines (name container : String) {inside : List Line}
    (whole : WholeLines inside) :
    ((nodesOf (containerLines name container inside)).flatMap Node.children).flatMap Node.children =
      nodesOf inside := by
  rw [containerLines]
  split
  · rename_i empty
    rw [empty]
    rfl
  · rw [children_propertyAround _ (whole.element _ _), nodesOf_elementLines _ _ whole]
    simp [Node.children]

/-- What the lines of a bean hold under a name that they list alone. -/
theorem held_alone {name className : String} {inside : List Line} (lists : Lists [name] inside) :
    held name (beanNode className inside) = (nodesOf inside).flatMap Node.children := by
  rw [held, beanNode, Node.children, lists.alone]

/-! ## Caches -/

def cacheNode (c : CacheConfig) : Node :=
  beanNode cacheClass (spaced (cacheGroups c))

/-- The lines of a cache are a single node, of which the rules for caches speak. -/
theorem nodesOf_cacheLines (c : CacheConfig) : nodesOf (cacheLines c) = [cacheNode c] :=
  nodesOf_beanAround _ (Lists.spaced (cacheGroups_lists c)).whole

/-- A property of a cache is looked for in the group that lists its name. -/
theorem cache_propertiesNamed (name : String) (c : CacheConfig) :
    propertiesNamed name (cacheNode c).children =
      ((cacheNames.zip (cacheGroups c)).filter fun group => name ∈ group.1).flatMap fun group =>
        propertiesNamed name (nodesOf group.2) :=
  propertiesNamed_spaced (cacheGroups_lists c) name

/-- The switches of a cache that rules are about. -/
theorem cache_switches (c : CacheConfig) :
    Written "swapEnabled" c.swapEnabled (cacheNode c) ∧
      Written "readThrough" c.readThrough (cacheNode c) ∧
      Written "writeThrough" c.writeThrough (cacheNode c) ∧
      Written "writeBehindEnabled" c.writeBehindEnabled (cacheNode c) := by
  refine ⟨?_, ?_, ?_, ?_⟩
  all_goals
    rw [Written, cache_propertiesNamed]
    simp [cacheNames, cacheGroups, cacheMemoryLines, cacheThroughLines, cacheWriteBehindLines,
      propertiesNamed_next, propertiesNamed_property, wholeLines_property]

/-- Under the name of the store there is what the store writes, and nothing else. -/
theorem cache_store (c : CacheConfig) :
    propertiesNamed "cacheStoreFactory" (cacheNode c).children =
      nodesOf (storeLines c.cacheStoreFactory) := by
  rw [cache_propertiesNamed, ← (storeLines_lists c.cacheStoreFactory).alone]
  simp [cacheNames, cacheGroups]

/-! ## Nodes -/

/-- The bean of a node, as a client or not. -/
def nodeNode (c : ClusterConfig) (client : Bool) : Node :=
  beanNode nodeClass (spaced (clientModeLines client :: nodeGroups c))

theorem nodesOf_nodeLines (c : ClusterConfig) (client : Bool) :
    nodesOf (nodeLines c client) = [nodeNode c client] :=
  nodesOf_beanAround _ (Lists.spaced (nodeGroups_lists c client)).whole

/-- A property of a node is looked for in the group that lists its name. -/
theorem node_propertiesNamed (name : String) (c : ClusterConfig) (client : Bool) :
    propertiesNamed name (nodeNode c client).children =
      ((nodeNames.zip (clientModeLines client :: nodeGroups c)).filter fun group =>
        name ∈ group.1).flatMap fun group => propertiesNamed name (nodesOf group.2) :=
  propertiesNamed_spaced (nodeGroups_lists c client) name

/-- What the rules look at in the bean of a node: its discovery, its swap space and its caches. -/
theorem node_parts (c : ClusterConfig) (client : Bool) :
    propertiesNamed "swapSpaceSpi" (nodeNode c client).children =
        nodesOf (swapSpaceLines c.swapSpaceSpi) ∧
      propertiesNamed "discoverySpi" (nodeNode c client).children =
        nodesOf (discoveryLines c.discovery) ∧
      propertiesNamed "cacheConfiguration" (nodeNode c client).children =
        nodesOf (cachesLines c.caches) := by
  rw [← (swapSpaceLines_lists c.swapSpaceSpi).alone, ← (discoveryLines_lists c.discovery).alone,
    ← (cachesLines_lists c.caches).alone]
  refine ⟨?_, ?_, ?_⟩
  all_goals
    rw [node_propertiesNamed]
    simp [nodeNames, nodeGroups]

/-! ## Beans inside the bean of a node -/

/-- The beans of the caches of a node. -/
def cacheBeans (node : Node) : List Node :=
  (held "cacheConfiguration" node).flatMap Node.children

/-- The beans of the finders of a node. -/
def finderBeans (node : Node) : List Node :=
  (held "discoverySpi" node).flatMap (held "ipFinder")

theorem nodesOf_spacedCaches (caches : List CacheConfig) :
    nodesOf (spaced (caches.map cacheLines)) = caches.map cacheNode := by
  rw [nodesOf_spaced]
  exact (makes_flatMap (fun c => ⟨(cacheLines_shows c).whole, nodesOf_cacheLines c⟩) caches).2

/-- The caches of a node are those that are described, in the same order. -/
theorem cacheBeans_nodeNode (c : ClusterConfig) (client : Bool) :
    cacheBeans (nodeNode c client) = c.caches.map cacheNode := by
  rw [cacheBeans, held, (node_parts c client).2.2, cachesLines,
    items_containerLines _ _ (spacedCaches_shows c.caches).whole, nodesOf_spacedCaches]

/-- The finder of a node is the one that discovery chooses. -/
theorem finderBeans_nodeNode {c : ClusterConfig} (client : Bool) {d : DiscoveryConfig}
    (given : c.discovery = some d) {finder : IpFinder} (chosen : IpFinder.ofConfig d = .ok finder) :
    finderBeans (nodeNode c client) = nodesOf (finderLines finder) := by
  have finderOne := finderLines_shows finder
  have inside : Lists ["ipFinder"] (propertyAround "ipFinder" (finderLines finder)) :=
    propertyAround_lists "ipFinder" finderOne
  have bean := nodesOf_beanAround tcpDiscoverySpi inside.whole
  have beanWhole : WholeLines (beanAround tcpDiscoverySpi
      (propertyAround "ipFinder" (finderLines finder))) := inside.whole.element _ _
  rw [finderBeans, held, (node_parts c client).2.1, given, discoveryLines, Option.toList_some,
    List.flatMap_singleton]
  simp only [chosen]
  rw [children_propertyAround _ beanWhole, bean, List.flatMap_singleton, held_alone inside,
    children_propertyAround _ finderOne.whole]

theorem finderBeans_of_none {c : ClusterConfig} (client : Bool) (notGiven : c.discovery = none) :
    finderBeans (nodeNode c client) = [] := by
  rw [finderBeans, held, (node_parts c client).2.1, notGiven]
  rfl

/-! ## Documents -/

/-- The last bean in a generated document is that of the node. -/
theorem clusterDocument_node {c : ClusterConfig} {clientNear : Option NearCacheConfig}
    {options : DocumentOptions} {text : String}
    (generated : clusterDocument c clientNear options = .ok text) :
    ∃ root, readDocument text = some root ∧
      root.children.getLast? = some (nodeNode c clientNear.isSome) := by
  have fine := (clusterDocument_ok_iff c clientNear options).mp ⟨text, generated⟩
  have succeeds : (nodeBeans c clientNear).failure? = none := by
    rw [failure?_nodeBeans, fine, List.head?_nil]
  have beans : nodeNodes c clientNear =
      nodesOf (clientNearLines clientNear) ++ [nodeNode c clientNear.isSome] := by
    rw [nodeNodes_eq succeeds, nodesOf_append (clientNearLines_shows clientNear).whole,
      nodesOf_nodeLines]
  refine ⟨_, clusterDocument_beans generated, ?_⟩
  rw [documentNode, Node.children, beans]
  simp

end GridBeans.Generation
