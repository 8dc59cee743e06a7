import GridBeans.Proofs.Consistency
import GridBeans.Proofs.Generation.Lookup

/-!
# Rules in generated documents

The rules of a description are about its settings, and a setting that holds only blanks counts as
not given. A document is written from what is not empty. Here the same rules are stated about the
beans that a reader finds in a document, and a description that keeps all rules is shown to have a
document in which they hold: a kind of nothing but blanks is no known kind, so there is no document
in which the two notions could part.
-/
namespace GridBeans.Generation

open GridBeans.Xml GridBeans.Markup GridBeans.Config GridBeans.Text

/-! ## Rules about beans -/

/-- What the bean of a finder needs. -/
def Needs : FinderKind → Node → Prop
  | .vm, finder => HasItem "addresses" finder
  | .s3, finder => HasText "bucketName" finder
  | .cloud, finder => HasText "identity" finder ∧ HasText "provider" finder
  | .googleStorage, finder =>
    HasText "projectName" finder ∧ HasText "bucketName" finder ∧
      HasText "serviceAccountP12FilePath" finder ∧ HasText "serviceAccountId" finder
  | .multicast, _ | .jdbc, _ | .sharedFs, _ => True

/-- The rules, as they show in the bean of a node. -/
structure KeepsRules (node : Node) : Prop where
  swapSpace : (∃ cache ∈ cacheBeans node, HasValue "swapEnabled" "true" cache) →
    Has "swapSpaceSpi" node
  store : ∀ cache ∈ cacheBeans node, Has "cacheStoreFactory" cache ↔
    HasValue "readThrough" "true" cache ∨ HasValue "writeThrough" "true" cache
  writeBehind : ∀ cache ∈ cacheBeans node, HasValue "writeBehindEnabled" "true" cache →
    Has "cacheStoreFactory" cache
  finder : ∀ finder ∈ finderBeans node, ∀ kind : FinderKind,
    attribute? "class" finder = some kind.className → Needs kind finder

/-! ## Finders -/

/-- A finder has what the rules call for. -/
def Complete : IpFinder → Prop
  | .vm v => v.addresses ≠ []
  | .s3 s => isBlankOrAbsent (s.bind (·.bucketName)) = false
  | .cloud c => isBlankOrAbsent c.identity = false ∧ isBlankOrAbsent c.provider = false
  | .googleStorage g =>
    isBlankOrAbsent g.projectName = false ∧ isBlankOrAbsent g.bucketName = false ∧
      isBlankOrAbsent g.serviceAccountP12FilePath = false ∧
      isBlankOrAbsent g.serviceAccountId = false
  | .multicast _ | .jdbc _ | .sharedFs _ => True

theorem requiredText_eq_nil (kind : FinderKind) (field : String) (value : Option String) :
    requiredText kind field value = [] ↔ isBlankOrAbsent value = false :=
  violationIf_eq_nil _ _

/-- A section that is asked for and found is the one that is given. -/
theorem ok_requiredSection {α β : Type} {f : α → β} {slot : Slot} {kind : String}
    {given : Option α} {b : β} (found : f <$> requiredSection slot kind given = .ok b) :
    ∃ a, given = some a ∧ b = f a := by
  cases given with
  | none => cases found
  | some a =>
    cases found
    exact ⟨a, rfl, rfl⟩

/-- The finder of a description that keeps the rules of discovery has what they call for. -/
theorem complete_of_kept {d : DiscoveryConfig} {finder : IpFinder}
    (kept : discoveryViolations d = []) (chosen : IpFinder.ofConfig d = .ok finder) :
    Complete finder := by
  rw [discoveryViolations] at kept
  unfold IpFinder.ofConfig at chosen
  cases found : FinderKind.ofName d.kind with
  | error e =>
    rw [found] at kept
    cases kept
  | ok k =>
    rw [found] at kept chosen
    cases k with
    | vm =>
      obtain ⟨v, given, rfl⟩ := ok_requiredSection chosen
      simpa [Complete, given, violationIf_eq_nil] using kept
    | s3 =>
      cases chosen
      exact (requiredText_eq_nil _ _ _).mp kept
    | cloud =>
      obtain ⟨v, given, rfl⟩ := ok_requiredSection chosen
      simpa [Complete, given, requiredText_eq_nil] using kept
    | googleStorage =>
      obtain ⟨v, given, rfl⟩ := ok_requiredSection chosen
      simpa [Complete, given, requiredText_eq_nil, and_assoc] using kept
    | multicast | jdbc | sharedFs =>
      obtain ⟨v, given, rfl⟩ := ok_requiredSection chosen
      trivial

/-- A finder can be told by the class of its bean, since no two kinds of finder have the same class.
-/
theorem className_injective {k other : FinderKind} (same : k.className = other.className) :
    k = other := by
  cases k <;> cases other <;> simp [FinderKind.className] at same ⊢

/-- A property around a list of values that is not empty is found with an item. -/
theorem hasItem_listLines (name className : String) {items : List String} (filled : items ≠ []) :
    HasItem name (beanNode className (listLines name "list" items)) := by
  have rows : Shows itemTags (pieceLines (items.map valueLeaf)) := .rows items valueLeaf_shows
  have list := nodesOf_elementLines "list" [] rows.whole
  rw [HasItem, held_alone (listLines_lists name items), listLines, containerLines]
  cases items with
  | nil => exact absurd rfl filled
  | cons first rest =>
    rw [if_neg (by exact List.cons_ne_nil _ _), children_propertyAround _ (rows.whole.element _ _),
      list]
    exact ⟨_, List.mem_cons_self, rfl, List.cons_ne_nil _ _⟩

/-- A property around a list is found under no name but its own. -/
theorem propertiesNamed_list {name other : String} (different : other ≠ name)
    (items : List String) : propertiesNamed name (nodesOf (listLines other "list" items)) = [] :=
  (listLines_lists other items).absent (by simpa using Ne.symm different)

/-- The bean of a finder has what the rules call for if the finder has. -/
theorem finder_needs (finder : IpFinder) :
    ∃ inside, nodesOf (finderLines finder) = [beanNode finder.kind.className inside] ∧
      (Complete finder → Needs finder.kind (beanNode finder.kind.className inside)) := by
  cases finder with
  | multicast m =>
    refine ⟨_, nodesOf_beanAround _ ?_, fun _ => trivial⟩
    repeat' apply WholeLines.append
    all_goals exact wholeLines_property _ _
  | vm v =>
    simp only [finderLines]
    split
    · rename_i empty
      exact ⟨[], rfl, fun complete => absurd (List.isEmpty_iff.mp empty) complete⟩
    · exact ⟨_, nodesOf_beanAround _ (listLines_lists _ _).whole, hasItem_listLines _ _⟩
  | s3 s =>
    refine ⟨_, nodesOf_beanAround _ (wholeLines_property _ _), fun complete => ?_⟩
    have written : Written "bucketName" (nonEmpty? (s.bind (·.bucketName)))
        (beanNode FinderKind.s3.className
          (propertyLines "bucketName" (nonEmpty? (s.bind (·.bucketName))))) := by
      rw [Written, beanNode, Node.children, propertiesNamed_property, if_pos rfl]
    exact hasText_of_written written ((isBlankOrAbsent_nonEmpty? _).trans complete)
  | cloud c =>
    refine ⟨_, nodesOf_beanAround _ ?_, fun complete => ?_⟩
    · repeat' apply WholeLines.append
      all_goals first | exact wholeLines_property _ _ | exact (listLines_lists _ _).whole
    · obtain ⟨identity, provider⟩ := complete
      refine ⟨hasText_of_written ?_ identity, hasText_of_written ?_ provider⟩
      all_goals simp [Written, beanNode, Node.children, propertiesNamed_next,
        propertiesNamed_property, wholeLines_property, propertiesNamed_list,
        (listLines_lists _ _).whole]
  | googleStorage g =>
    refine ⟨_, nodesOf_beanAround _ ?_, fun complete => ?_⟩
    · repeat' apply WholeLines.append
      all_goals exact wholeLines_property _ _
    · obtain ⟨project, bucket, path, account⟩ := complete
      refine ⟨hasText_of_written ?_ project, hasText_of_written ?_ bucket,
        hasText_of_written ?_ path, hasText_of_written ?_ account⟩
      all_goals simp [Written, beanNode, Node.children, propertiesNamed_next,
        propertiesNamed_property, wholeLines_property]
  | jdbc j => exact ⟨_, nodesOf_beanAround _ (wholeLines_property _ _), fun _ => trivial⟩
  | sharedFs f =>
    simp only [finderLines]
    split
    · exact ⟨_, nodesOf_beanAround _ (wholeLines_property _ _), fun _ => trivial⟩
    · exact ⟨[], rfl, fun _ => trivial⟩

/-! ## Caches and swap space -/

/-- The rules for one cache. -/
structure CacheKept (swapSpace : Bool) (c : CacheConfig) : Prop where
  swap : c.swapEnabled = some true → swapSpace = true
  store : hasStore c = isThrough c
  writeBehind : c.writeBehindEnabled = some true → hasStore c = true

/-- A cache about which nothing is reported keeps the rules for swapping, its store and writing
behind. -/
theorem cacheKept_of_violations {swapSpace : Bool} {index : Nat} {c : CacheConfig}
    (kept : cacheViolations swapSpace index c = []) : CacheKept swapSpace c := by
  simp only [cacheViolations, List.append_eq_nil_iff, violationIf_eq_nil, Bool.and_eq_false_iff,
    Bool.not_eq_false', decide_eq_false_iff_not] at kept
  obtain ⟨⟨⟨swap, unused⟩, through⟩, writeBehind⟩ := kept
  refine ⟨fun on => swap.resolve_left fun off => off on, ?_,
    fun on => writeBehind.resolve_left fun off => off on⟩
  rcases unused with no | yes
  · rcases through with alsoNo | store
    · rw [no, alsoNo]
    · rw [no] at store
      cases store
  · rcases through with no | store
    · rw [yes] at no
      cases no
    · rw [yes, store]

/-- The same for the caches of a list, each of which is checked at its own position. -/
theorem cachesKept_of_violations {swapSpace : Bool} {index : Nat} {caches : List CacheConfig}
    (kept : cachesViolations swapSpace index caches = []) :
    ∀ c ∈ caches, CacheKept swapSpace c := by
  induction caches generalizing index with
  | nil => exact List.forall_mem_nil _
  | cons c rest ih =>
    rw [cachesViolations, List.append_eq_nil_iff] at kept
    exact List.forall_mem_cons.mpr ⟨cacheKept_of_violations kept.1, ih kept.2⟩

/-- A bean that is called for is written, whether or not any of its fields has a value. -/
theorem nodesOf_shapedLines_ne_nil (name : String) (shape : BeanShape)
    (members : List (String × Json.Value)) :
    nodesOf (shapedLines name shape members true) ≠ [] := by
  unfold shapedLines
  split
  · exact nodesOf_elementLines_ne_nil _ _ _
  · exact nodesOf_elementLines_ne_nil _ _ _

/-- Where nothing is wrong with the store, one is written exactly if its kind is not blank. -/
theorem store_written_iff {c : CacheConfig} (fine : storeFaults c.cacheStoreFactory = []) :
    nodesOf (storeLines c.cacheStoreFactory) ≠ [] ↔ hasStore c = true := by
  rw [hasStore]
  cases factory : c.cacheStoreFactory with
  | none => exact ⟨fun written => absurd rfl written, fun has => absurd has Bool.false_ne_true⟩
  | some f =>
    rw [factory, storeFaults, List.append_eq_nil_iff] at fine
    rw [storeLines, Option.toList_some, List.flatMap_singleton, chosenLines, Option.bind_some,
      ← isBlankOrAbsent_nonEmpty?]
    rcases nonEmpty?_cases .storeFactory storeKinds f.kind with
      ⟨skipped, -, -⟩ | ⟨name, -, chosen, -, same⟩
    · rw [skipped]
      exact ⟨fun written => absurd rfl written, fun has => absurd has Bool.false_ne_true⟩
    · have names : StoreKind.all.map StoreKind.name = storeKinds := rfl
      rcases find_cases names .storeFactory name with ⟨k, hit, named, -⟩ | ⟨-, fault⟩
      · subst named
        have notBlank : isBlank k.name = false := by cases k <;> decide
        have found : StoreKind.ofName k.name = .ok k := by rw [StoreKind.ofName, hit]
        simp only [chosen, found, isBlankOrAbsent, notBlank, Bool.not_false, iff_true]
        exact nodesOf_shapedLines_ne_nil _ _ _
      · rw [same, fault] at fine
        cases fine.1

/-- Where nothing is wrong with the swap space, it is written if its kind is not blank. -/
theorem swapSpace_written {c : ClusterConfig} (fine : swapSpaceFaults c.swapSpaceSpi = [])
    (hasOne : hasSwapSpace c = true) : nodesOf (swapSpaceLines c.swapSpaceSpi) ≠ [] := by
  rw [hasSwapSpace] at hasOne
  cases given : c.swapSpaceSpi with
  | none =>
    rw [given] at hasOne
    cases hasOne
  | some s =>
    rw [given, Option.bind_some, ← isBlankOrAbsent_nonEmpty?] at hasOne
    rw [given, swapSpaceFaults] at fine
    rcases nonEmpty?_cases .swapSpace ["FileSwapSpaceSpi"] s.kind with
      ⟨skipped, -, -⟩ | ⟨name, isKind, -, -, same⟩
    · rw [skipped] at hasOne
      cases hasOne
    · have isFile : s.kind = some fileSwapSpaceKind := by
        rw [same, kindFaults] at fine
        split at fine
        · rename_i known
          rw [isKind, List.mem_singleton.mp known, fileSwapSpaceKind]
        · cases fine
      rw [swapSpaceLines, Option.toList_some, List.flatMap_singleton, if_pos isFile]
      exact nodesOf_shapedLines_ne_nil _ _ _

/-! ## Nodes -/

/-- Where discovery has no fault its finder is chosen, with the section that it needs. -/
theorem exists_finder {d : DiscoveryConfig} (fine : discoveryFaults (some d) = []) :
    ∃ finder, IpFinder.ofConfig d = .ok finder := by
  have succeeds := failure?_discovery d
  rw [fine, List.head?_nil, discovery, Script.failure?_ofExcept_bind] at succeeds
  cases chosen : IpFinder.ofConfig d with
  | error e =>
    rw [chosen] at succeeds
    cases succeeds
  | ok finder => exact ⟨finder, rfl⟩

/-- The only finder of a node is the chosen one, and it has what the rules call for. -/
theorem finderBeans_needs {c : ClusterConfig} (client : Bool) (kept : violations c = [])
    (fine : discoveryFaults c.discovery = []) :
    (finderBeans (nodeNode c client)).length = c.discovery.toList.length ∧
      ∀ finder ∈ finderBeans (nodeNode c client), ∀ kind : FinderKind,
        attribute? "class" finder = some kind.className → Needs kind finder := by
  cases given : c.discovery with
  | none =>
    rw [finderBeans_of_none client given]
    exact ⟨rfl, List.forall_mem_nil _⟩
  | some d =>
    simp only [violations, given, List.append_eq_nil_iff] at kept
    rw [given] at fine
    obtain ⟨finder, chosen⟩ := exists_finder fine
    obtain ⟨inside, only, needs⟩ := finder_needs finder
    rw [finderBeans_nodeNode client given chosen, only]
    refine ⟨rfl, List.forall_mem_singleton.mpr fun kind isKind => ?_⟩
    have sameClass : finder.kind.className = kind.className := Option.some.inj isKind
    rw [← className_injective sameClass]
    exact needs (complete_of_kept kept.1.1.2 chosen)

/-- The rules hold in the bean of a node if they are kept and nothing else is wrong. -/
theorem nodeNode_keepsRules {c : ClusterConfig} {clientNear : Option NearCacheConfig}
    (client : Bool) (kept : violations c = []) (fine : faults c clientNear = []) :
    KeepsRules (nodeNode c client) := by
  have caches : ∀ cache ∈ c.caches, CacheKept (hasSwapSpace c) cache := by
    simp only [violations, List.append_eq_nil_iff] at kept
    exact cachesKept_of_violations kept.2
  simp only [faults, List.append_eq_nil_iff, List.flatMap_eq_nil_iff] at fine
  obtain ⟨⟨⟨⟨⟨-, discoveryFine⟩, -⟩, -⟩, swapFine⟩, cachesFine⟩ := fine
  have stores : ∀ cache ∈ c.caches, Has "cacheStoreFactory" (cacheNode cache) ↔
      hasStore cache = true := fun cache mem => by
    have storeFine := (List.append_eq_nil_iff.mp (cachesFine cache mem)).2
    rw [Has, cache_store, store_written_iff storeFine]
  refine ⟨?_, ?_, ?_, (finderBeans_needs client kept discoveryFine).2⟩
  · rw [cacheBeans_nodeNode]
    rintro ⟨_, mem, on⟩
    obtain ⟨cache, inside, rfl⟩ := List.mem_map.mp mem
    rw [hasValue_true_iff (cache_switches cache).1] at on
    rw [Has, (node_parts c client).1]
    exact swapSpace_written swapFine ((caches cache inside).swap on)
  · rw [cacheBeans_nodeNode]
    refine List.forall_mem_map.mpr fun cache inside => ?_
    obtain ⟨-, readThrough, writeThrough, -⟩ := cache_switches cache
    rw [stores cache inside, (caches cache inside).store, hasValue_true_iff readThrough,
      hasValue_true_iff writeThrough]
    simp [isThrough]
  · rw [cacheBeans_nodeNode]
    refine List.forall_mem_map.mpr fun cache inside on => ?_
    rw [hasValue_true_iff (cache_switches cache).2.2.2] at on
    exact (stores cache inside).mpr ((caches cache inside).writeBehind on)

/-! ## Documents -/

/-- The document of a cluster that keeps all rules keeps them too: the last bean in it is that of
the node, with a bean for each cache and one for the finder if there is discovery, and every rule
holds in it. -/
theorem kept_rules_in_document (c : ClusterConfig) (clientNear : Option NearCacheConfig)
    (options : DocumentOptions) (text : String) (kept : violations c = [])
    (generated : clusterDocument c clientNear options = .ok text) :
    ∃ root node, readDocument text = some root ∧ root.children.getLast? = some node ∧
      attribute? "class" node = some nodeClass ∧
      (cacheBeans node).length = c.caches.length ∧
      (finderBeans node).length = c.discovery.toList.length ∧ KeepsRules node := by
  have fine := (clusterDocument_ok_iff c clientNear options).mp ⟨text, generated⟩
  have discoveryFine : discoveryFaults c.discovery = [] := by
    simp only [faults, List.append_eq_nil_iff] at fine
    exact fine.1.1.1.1.2
  obtain ⟨root, reads, last⟩ := clusterDocument_node generated
  refine ⟨root, nodeNode c clientNear.isSome, reads, last, rfl, ?_,
    (finderBeans_needs _ kept discoveryFine).1, nodeNode_keepsRules _ kept fine⟩
  rw [cacheBeans_nodeNode, List.length_map]

/-- A cluster with swap space, and with one cache that swaps and is written behind. -/
def swappingCluster : ClusterConfig :=
  { addressedCluster with
    swapSpaceSpi := some ⟨some "FileSwapSpaceSpi", none⟩
    caches := [
      { CacheConfig.unset with
        swapEnabled := some true
        cacheStoreFactory := some ⟨some "CacheHibernateBlobStoreFactory", none, none, some ⟨[]⟩⟩
        writeThrough := some true
        writeBehindEnabled := some true },
      CacheConfig.unset] }

/-- A cluster with a swap space and two caches keeps all rules, and a reader finds two caches and
one finder. -/
theorem swappingCluster_keeps_rules :
    violations swappingCluster = [] ∧
      ∃ text root node, clusterDocument swappingCluster none .default = .ok text ∧
        readDocument text = some root ∧ root.children.getLast? = some node ∧
        (cacheBeans node).length = 2 ∧ (finderBeans node).length = 1 ∧ KeepsRules node := by
  have kept : violations swappingCluster = [] := by decide
  have fine : faults swappingCluster none = [] := by decide
  obtain ⟨text, generated⟩ := (clusterDocument_ok_iff swappingCluster none .default).mpr fine
  obtain ⟨root, node, reads, last, -, caches, finders, keeps⟩ :=
    kept_rules_in_document swappingCluster none .default text kept generated
  exact ⟨kept, text, root, node, generated, reads, last, caches, finders, keeps⟩

end GridBeans.Generation
