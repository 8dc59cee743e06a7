import GridBeans.Consistency
import GridBeans.Generation.Document
import GridBeans.Proofs.Config.Effect
import GridBeans.Proofs.Config.Members
import GridBeans.Proofs.Config.Unset
import GridBeans.Proofs.Generation.Faults

/-!
# Results of settings in effect

A cluster has the same documents, the same failures and the same violations as the description that
only its settings in effect make up. So two descriptions with the same settings in effect cannot be
told apart by any result: a section that is not chosen is not even looked at for faults.
-/
namespace GridBeans.Config

/-! ## First of each name -/

/-- The first types of joined lists are those of the front, then those of the back whose names the
front lacks. -/
theorem firstOfName_append (front back : List TypeMetadata) :
    firstOfName (front ++ back) =
      firstOfName front ++
        (firstOfName back).filter fun t => t.name ∉ front.map TypeMetadata.name := by
  induction front with
  | nil => simp [firstOfName]
  | cons t rest ih =>
    simp only [List.cons_append, firstOfName, ih, List.filter_append, List.filter_filter,
      List.map_cons, List.mem_cons, not_or, Bool.decide_and]

/-- Names that are left out can be left out before or after the first ones are taken. -/
theorem firstOfName_filter (kept : String → Bool) (types : List TypeMetadata) :
    firstOfName (types.filter fun t => kept t.name) =
      (firstOfName types).filter fun t => kept t.name := by
  induction types with
  | nil => rfl
  | cons t rest ih =>
    by_cases isKept : kept t.name
    · simp only [List.filter_cons, isKept, if_true, firstOfName, ih, List.filter_filter]
      simp only [Bool.and_comm]
    · simp only [List.filter_cons, isKept, firstOfName, List.filter_filter, Bool.false_eq_true,
        if_false, ih]
      refine List.filter_congr fun later _ => ?_
      by_cases same : later.name = t.name
      · simp [same, isKept]
      · simp [same]

/-- Dropping repeated names a second time drops nothing, since the names that are left differ. -/
theorem firstOfName_firstOfName (types : List TypeMetadata) :
    firstOfName (firstOfName types) = firstOfName types := by
  induction types with
  | nil => rfl
  | cons t rest ih =>
    simp only [firstOfName, firstOfName_filter (fun name => name ≠ t.name), ih,
      List.filter_filter, Bool.and_self]

/-- Types that keep their names can be changed before or after the first ones are taken. -/
theorem firstOfName_map {change : TypeMetadata → TypeMetadata}
    (named : ∀ t, (change t).name = t.name) (types : List TypeMetadata) :
    firstOfName (types.map change) = (firstOfName types).map change := by
  induction types with
  | nil => rfl
  | cons t rest ih =>
    simp only [List.map_cons, firstOfName, ih, List.filter_map, Function.comp_def, named]

theorem isEmpty_firstOfName (types : List TypeMetadata) :
    (firstOfName types).isEmpty = types.isEmpty := by
  cases types with
  | nil => rfl
  | cons t rest => rfl

/-- The types in effect are the first ones of all names, those for queries first. -/
theorem CacheConfig.effective_types (c : CacheConfig) :
    c.effective.queryMetadata ++ c.effective.storeMetadata =
      (firstOfName (c.queryMetadata ++ c.storeMetadata)).map TypeMetadata.effective := by
  rw [firstOfName_append, List.map_append]
  rfl

end GridBeans.Config

namespace GridBeans.Generation

open GridBeans.Config GridBeans.Catalogue

/-! ## Sections -/

/-- What is chosen by a kind is the same for two descriptions that have the same to say about the
kind that is chosen. -/
theorem choice_congr {κ : Type} (kind : Option String) (ofName : String → Except Failure κ)
    {f g : κ → Script Bool}
    (same : ∀ name k, kind = some name → ofName name = .ok k → f k = g k) :
    (match Text.nonEmpty? (Text.nonEmpty? kind) with
      | none => pure false
      | some name => Script.ofExcept (ofName name) >>= f : Script Bool) =
      match Text.nonEmpty? kind with
      | none => pure false
      | some name => Script.ofExcept (ofName name) >>= g := by
  rw [nonEmpty?_nonEmpty?]
  rcases nonEmpty?_cases .storeFactory [] kind with ⟨skipped, -, -⟩ | ⟨name, given, chosen, -, -⟩
  · rw [skipped]
  · rw [chosen]
    cases found : ofName name with
    | error e =>
      simp only [found]
      rfl
    | ok k =>
      simp only [found]
      exact same name k given found

/-! ## Beans of a shape -/

/-- Of the members, a field reads the one that it names. -/
theorem hasValue_congr {f : FieldShape} {members others : List (String × Json.Value)}
    (same : Json.member? f.name members = Json.member? f.name others) :
    f.hasValue members = f.hasValue others := by
  rw [FieldShape.hasValue, same, ← FieldShape.hasValue]

theorem write_congr {f : FieldShape} {members others : List (String × Json.Value)}
    (same : Json.member? f.name members = Json.member? f.name others) :
    f.write members = f.write others := by
  rw [FieldShape.write, hasValue_congr same, same, ← FieldShape.write]

/-- Of the members, a bean of a shape reads those that its fields name. -/
theorem shapedBean_congr {name : String} {shape : BeanShape}
    {members others : List (String × Json.Value)} {force : Bool}
    (same : ∀ f ∈ shape.fields, Json.member? f.name members = Json.member? f.name others) :
    shapedBean name shape members force = shapedBean name shape others force := by
  have sameAny : shape.fields.any (·.hasValue members) = shape.fields.any (·.hasValue others) := by
    rw [Bool.eq_iff_iff, List.any_eq_true, List.any_eq_true]
    exact exists_congr fun f => and_congr_right fun inside => by
      rw [hasValue_congr (same f inside)]
  have sameEach : ∀ fields ⊆ shape.fields, Script.forEach fields (·.write members) =
      Script.forEach fields (·.write others) := by
    intro fields inside
    induction fields with
    | nil => rfl
    | cons f rest ih =>
      rw [List.cons_subset] at inside
      rw [Script.forEach, Script.forEach, write_congr (same f inside.1), ih inside.2]
  rw [shapedBean, shapedBean, sameAny, sameEach _ (List.Subset.refl _)]

/-! ## Parts with a kind -/

/-- A policy is written from the section of its kind alone, so the other sections have no effect. -/
theorem evictionPolicy_effective (policy : Option EvictionPolicyConfig) (propertyName : String) :
    evictionPolicy (policy.map EvictionPolicyConfig.effective) propertyName =
      evictionPolicy policy propertyName := by
  cases policy with
  | none => rfl
  | some p =>
    refine choice_congr p.kind EvictionKind.ofName fun name k given found => ?_
    rw [← EvictionKind.name_of_found found] at given
    have sameBean : shapedBean propertyName k.shape (membersOf (k.limits p.effective)) true =
        shapedBean propertyName k.shape (membersOf (k.limits p)) true := by
      cases k with
      | lru | fifo | sorted =>
        simp only [EvictionKind.limits, EvictionPolicyConfig.effective, given, EvictionKind.name,
          sectionOf_self]
      | random =>
        -- The shape has the one field that is left of the limits.
        refine shapedBean_congr fun f inside => ?_
        rw [List.mem_singleton.mp inside]
        simp only [EvictionKind.limits, EvictionPolicyConfig.effective, given, EvictionKind.name,
          sectionOf_self]
        cases p.rnd with
        | none => rfl
        | some limits =>
          simp [membersOf, HasMembers.members, scalarField, Json.member?_append]
    rw [sameBean]

theorem marshaller_effective (config : Option MarshallerConfig) :
    marshaller (config.map MarshallerConfig.effective) = marshaller config := by
  cases config with
  | none => rfl
  | some m =>
    refine choice_congr m.kind MarshallerKind.ofName fun name k given found => ?_
    rw [← MarshallerKind.name_of_found found] at given
    cases k with
    | optimized | jdk =>
      simp only [MarshallerKind.settings, MarshallerConfig.effective, given, MarshallerKind.name,
        sectionOf_self]

theorem swapSpace_effective (config : Option SwapSpaceSpiConfig) :
    swapSpace (config.map SwapSpaceSpiConfig.effective) = swapSpace config := by
  cases config with
  | none => rfl
  | some s =>
    simp only [Option.map_some, swapSpace, SwapSpaceSpiConfig.effective, nonEmpty?_nonEmpty?]
    rcases nonEmpty?_cases .swapSpace [] s.kind with ⟨skipped, -, -⟩ | ⟨kind, given, chosen, -, -⟩
    · rw [skipped]
    · simp only [chosen]
      split
      · rename_i isFile
        rw [given, isFile, fileSwapSpaceKind, sectionOf_self]
      · rfl

/-- A store is written from the section of its kind alone, and only that section can call for a data
source. -/
theorem storeFactory_effective (factory : Option StoreFactoryConfig) :
    storeFactory (factory.map StoreFactoryConfig.effective) = storeFactory factory := by
  cases factory with
  | none => rfl
  | some f =>
    refine choice_congr f.kind StoreKind.ofName fun name k given found => ?_
    rw [← StoreKind.name_of_found found] at given
    have sameFactory : storeFactoryOf k f.effective = storeFactoryOf k f := by
      cases k with
      | jdbcPojo | jdbcBlob | hibernateBlob =>
        simp only [storeFactoryOf, StoreFactoryConfig.effective, given, StoreKind.name,
          sectionOf_self]
    rw [sameFactory]

/-- The finder is chosen by its name, so the sections of the other finders have no effect. -/
theorem ofConfig_effective (d : DiscoveryConfig) :
    IpFinder.ofConfig d.effective = IpFinder.ofConfig d := by
  show (FinderKind.ofName d.kind >>= _) = (FinderKind.ofName d.kind >>= _)
  cases found : FinderKind.ofName d.kind with
  | error e => rfl
  | ok k =>
    have given := FinderKind.name_of_found found
    cases k with
    | multicast | vm | s3 | cloud | googleStorage | jdbc | sharedFs =>
      simp only [DiscoveryConfig.effective, ← given, FinderKind.name, sectionOf_self]
      rfl

theorem discovery_effective (d : DiscoveryConfig) : discovery d.effective = discovery d := by
  rw [discovery, ofConfig_effective, ← discovery]

/-! ## Types -/

/-- The key columns are written unless the key is of a Java library class. -/
theorem hasKeyColumns_eq (keyType : Option String) :
    hasKeyColumns keyType = !keyType.any isJavaClass := by
  cases keyType with
  | none => rfl
  | some name => rfl

/-- A type is written the same without the columns and fields that its kind or the class of its key
leaves out. -/
theorem typeEntry_effective (t : TypeMetadata) : typeEntry t.effective = typeEntry t := by
  rw [typeEntry, typeEntry]
  have database : Script.onlyIf (t.kind ≠ some .query) (databaseSide t.effective) =
      Script.onlyIf (t.kind ≠ some .query) (databaseSide t) := by
    by_cases stored : t.kind = some .query
    · simp only [Script.onlyIf, stored, ne_eq, not_true_eq_false, if_false]
    · simp only [databaseSide, TypeMetadata.effective, hasKeyColumns_eq, stored, ne_eq, false_or,
        if_false, onlyWhen, not_false_eq_true, if_true]
      cases t.keyType.any isJavaClass with
      | false => rfl
      | true => rfl
  have query : Script.onlyIf (t.kind ≠ some .store) (querySide t.effective) =
      Script.onlyIf (t.kind ≠ some .store) (querySide t) := by
    by_cases queried : t.kind = some .store
    · simp only [Script.onlyIf, queried, ne_eq, not_true_eq_false, if_false]
    · simp only [querySide, TypeMetadata.effective, queried, if_false]
  rw [← database, ← query]
  rfl

/-- The types of a cache in the order in which they are written. -/
theorem firstByName_eq (seen : List String) (types : List TypeMetadata) :
    firstByName seen types = (firstOfName types).filter fun t => t.name ∉ seen := by
  induction types generalizing seen with
  | nil => rfl
  | cons t rest ih =>
    rw [firstByName, firstOfName]
    by_cases known : t.name ∈ seen
    · simp only [List.contains_iff_mem, known, if_true, ih, List.filter_cons, not_true_eq_false,
        decide_false, Bool.false_eq_true, if_false, List.filter_filter]
      refine List.filter_congr fun later _ => ?_
      by_cases same : later.name = t.name
      · simp [same, known]
      · simp [same]
    · simp only [List.contains_iff_mem, known, if_false, ih, List.filter_cons, not_false_eq_true,
        decide_true, if_true, List.filter_filter, List.mem_cons, not_or]
      refine congrArg (t :: ·) (List.filter_congr fun later _ => ?_)
      rw [Bool.decide_and, Bool.and_comm]

/-- Of the types, the first of each name counts. -/
theorem typeEntries_eq (types others : List TypeMetadata) :
    typeEntries types others =
      if (types ++ others).isEmpty then pure ()
      else (do
        Script.sectionStart
        propertyBlock "typeMetadata"
          (.block "list" [] (.forEach (firstOfName (types ++ others)) typeEntry))) := by
  have sameEmpty : (types.isEmpty && others.isEmpty) = (types ++ others).isEmpty := by
    cases types with
    | nil => rfl
    | cons t rest => rfl
  simp only [typeEntries, firstByName_eq, sameEmpty, List.not_mem_nil, not_false_eq_true,
    decide_true, List.filter_true]

theorem forEach_map {α β : Type} (g : α → β) (items : List α) (f : β → Script Unit) :
    Script.forEach (items.map g) f = Script.forEach items fun a => f (g a) := by
  induction items with
  | nil => rfl
  | cons a rest ih => rw [List.map_cons, Script.forEach, Script.forEach, ih]

/-- The list of types is written the same from the types that count, those for queries ahead of
those for stores. -/
theorem typeEntries_effective (c : CacheConfig) :
    typeEntries c.effective.queryMetadata c.effective.storeMetadata =
      typeEntries c.queryMetadata c.storeMetadata := by
  have named : ∀ t : TypeMetadata, t.effective.name = t.name := fun _ => rfl
  simp only [typeEntries_eq, CacheConfig.effective_types, List.isEmpty_map, isEmpty_firstOfName,
    firstOfName_map named, firstOfName_firstOfName, forEach_map, typeEntry_effective]

/-! ## Caches and nodes -/

theorem nearCacheBean_effective (id : Option String) (near : Option NearCacheConfig) :
    nearCacheBean id (near.map NearCacheConfig.effective) = nearCacheBean id near := by
  cases near with
  | none => rfl
  | some n =>
    have sameProperties : nearProperties n.effective = nearProperties n := by
      simp only [nearProperties, NearCacheConfig.effective, evictionPolicy_effective]
    simp only [nearCacheBean, Option.map_some, Script.forSome, sameProperties]

theorem cacheLayout_effective (c : CacheConfig) : cacheLayout c.effective = cacheLayout c := by
  rw [cacheLayout, cacheLayout]
  by_cases spread : c.mode = some .partitioned
  · simp only [CacheConfig.effective, onlyWhen_of spread]
  · simp only [CacheConfig.effective, Script.onlyIf, spread, if_false]

theorem cacheNear_effective (c : CacheConfig) : cacheNear c.effective = cacheNear c := by
  rw [cacheNear, cacheNear]
  by_cases switchedOn : c.nearCacheEnabled = some true
  · simp only [CacheConfig.effective, onlyWhen_of switchedOn, nearCacheBean_effective]
  · simp only [CacheConfig.effective, Script.onlyIf, switchedOn, if_false]

theorem cacheRebalance_effective (c : CacheConfig) :
    cacheRebalance c.effective = cacheRebalance c := by
  rw [cacheRebalance, cacheRebalance]
  by_cases spread : c.mode ≠ some .onNode
  · simp only [CacheConfig.effective, onlyWhen_of spread]
  · simp only [CacheConfig.effective, Script.onlyIf, spread, if_false]

/-- The bean of a cache is one script for the cache and for its effective form, group by group. -/
theorem cacheBean_effective (c : CacheConfig) : cacheBean c.effective = cacheBean c := by
  have eviction : evictionPolicy c.effective.evictionPolicy "evictionPolicy" =
      evictionPolicy c.evictionPolicy "evictionPolicy" := evictionPolicy_effective _ _
  have store : storeFactory c.effective.cacheStoreFactory = storeFactory c.cacheStoreFactory :=
    storeFactory_effective _
  rw [cacheBean, cacheProperties, cacheLayout_effective, eviction, cacheNear_effective,
    cacheRebalance_effective, store, typeEntries_effective]
  rfl

/-- Items that make the same script can be exchanged. -/
theorem forEachSpaced_map {α : Type} {g : α → α} {f : α → Script Unit}
    (same : ∀ a, f (g a) = f a) (items : List α) :
    Script.forEachSpaced (items.map g) f = Script.forEachSpaced items f := by
  induction items with
  | nil => rfl
  | cons a rest ih =>
    cases rest with
    | nil => exact same a
    | cons b rest =>
      rw [List.map_cons] at ih
      simp only [List.map_cons, Script.forEachSpaced, same, ih]

theorem nodeCaches_map {change : CacheConfig → CacheConfig}
    (same : ∀ c, cacheBean (change c) = cacheBean c) (caches : List CacheConfig) :
    nodeCaches (caches.map change) = nodeCaches caches := by
  simp only [nodeCaches, List.isEmpty_map, forEachSpaced_map same]

/-- The beans of a node are those of its settings in effect. -/
theorem nodeBeans_effective (c : ClusterConfig) (clientNear : Option NearCacheConfig) :
    nodeBeans c.effective clientNear = nodeBeans c clientNear := by
  have discovered : nodeDiscovery c.effective = nodeDiscovery c := by
    simp only [nodeDiscovery, ClusterConfig.effective]
    cases c.discovery with
    | none => rfl
    | some d => simp only [Option.map_some, Script.forSome, discovery_effective]
  have marshalling : marshaller c.effective.marshaller = marshaller c.marshaller :=
    marshaller_effective _
  have swap : swapSpace c.effective.swapSpaceSpi = swapSpace c.swapSpaceSpi :=
    swapSpace_effective _
  have caches : nodeCaches c.effective.caches = nodeCaches c.caches :=
    nodeCaches_map cacheBean_effective _
  rw [nodeBeans, nodeProperties, discovered, marshalling, swap, caches]
  rfl

end GridBeans.Generation

namespace GridBeans

open GridBeans.Config GridBeans.Generation GridBeans.Text

/-! ## Rules -/

theorem discoveryViolations_effective (d : DiscoveryConfig) :
    discoveryViolations d.effective = discoveryViolations d := by
  have sameKind : d.effective.kind = d.kind := rfl
  rw [discoveryViolations, discoveryViolations, sameKind]
  cases found : FinderKind.ofName d.kind with
  | error e => rfl
  | ok k =>
    have given := FinderKind.name_of_found found
    cases k with
    | multicast | jdbc | sharedFs => rfl
    | vm | s3 | cloud | googleStorage =>
      simp only [DiscoveryConfig.effective, ← given, FinderKind.name, sectionOf_self]

theorem hasSwapSpace_effective (c : ClusterConfig) : hasSwapSpace c.effective = hasSwapSpace c := by
  simp only [hasSwapSpace, ClusterConfig.effective]
  cases c.swapSpaceSpi with
  | none => rfl
  | some s => simp only [Option.map_some, Option.bind_some, SwapSpaceSpiConfig.effective,
      isBlankOrAbsent_nonEmpty?]

theorem hasStore_effective (c : CacheConfig) : hasStore c.effective = hasStore c := by
  simp only [hasStore, CacheConfig.effective]
  cases c.cacheStoreFactory with
  | none => rfl
  | some f => simp only [Option.map_some, Option.bind_some, StoreFactoryConfig.effective,
      isBlankOrAbsent_nonEmpty?]

/-- The rules for caches look at nothing that the effective form leaves out, and positions stay as
they are. -/
theorem cachesViolations_effective (swapSpace : Bool) (index : Nat) (caches : List CacheConfig) :
    cachesViolations swapSpace index (caches.map CacheConfig.effective) =
      cachesViolations swapSpace index caches := by
  induction caches generalizing index with
  | nil => rfl
  | cons c rest ih =>
    simp only [List.map_cons, cachesViolations, ih, cacheViolations, hasStore_effective]
    rfl

/-- A cluster and its effective form break the same rules, about the same caches. -/
theorem violations_effective (c : ClusterConfig) : violations c.effective = violations c := by
  have caches : cachesViolations (hasSwapSpace c) 0 c.effective.caches =
      cachesViolations (hasSwapSpace c) 0 c.caches := cachesViolations_effective _ _ _
  rw [violations, violations, hasSwapSpace_effective, caches]
  cases given : c.discovery with
  | none => simp only [ClusterConfig.effective, given, Option.map_none]
  | some d =>
    simp only [ClusterConfig.effective, given, Option.map_some, discoveryViolations_effective]

/-! ## Two descriptions -/

/-- Two clusters with the same settings in effect have the same documents for nodes and for clients,
the same properties, and break the same rules; where generation fails, it fails alike. -/
theorem same_effect_same_results (c d : ClusterConfig) (same : c.effective = d.effective)
    (clientNear : Option NearCacheConfig) (options : DocumentOptions) :
    clusterDocument c clientNear options = clusterDocument d clientNear options ∧
      secretProperties c = secretProperties d ∧ violations c = violations d := by
  have sameBeans : ∀ near, nodeBeans c near = nodeBeans d near := fun near => by
    rw [← nodeBeans_effective c, same, nodeBeans_effective]
  have sameViolations : violations c = violations d := by
    rw [← violations_effective c, same, violations_effective]
  refine ⟨?_, ?_, sameViolations⟩
  · rw [clusterDocument, sameBeans, ← clusterDocument]
  · rw [secretProperties, sameBeans, ← secretProperties]

/-- A type of which nothing is given but its name and its side. -/
def namedType (name : String) (kind : MetadataKind) : TypeMetadata :=
  ⟨name, some kind, none, none, none, none, [], [], [], [], [], [], []⟩

/-- A cluster with one cache on each node, with nothing given that is not in effect. -/
def plainCluster : ClusterConfig :=
  { ClusterConfig.unset with
    name := some "grid"
    discovery := some { DiscoveryConfig.unset with kind := "Vm", vm := some ⟨["10.0.0.1"]⟩ }
    marshaller := some ⟨some "JdkMarshaller", none, none⟩
    swapSpaceSpi := some ⟨none, none⟩
    caches := [
      { CacheConfig.unset with
        mode := some .onNode
        evictionPolicy := some ⟨some "RND", none, some ⟨none, none, some 9⟩, none, none⟩
        cacheStoreFactory := some ⟨some "CacheJdbcPojoStoreFactory", some ⟨none, none⟩, none, none⟩
        queryMetadata := [namedType "Order" .query]
        storeMetadata := [{ namedType "Person" .store with keyType := some "Integer" }] }] }

/-- The same cluster with sections that are not chosen, of which one has a fault, an empty kind, and
settings that mode, switches, kinds and names leave out of effect. -/
def crowdedCluster : ClusterConfig :=
  { plainCluster with
    discovery := some
      { DiscoveryConfig.unset with
        kind := "Vm", vm := some ⟨["10.0.0.1"]⟩, jdbc := some ⟨some true⟩ }
    marshaller := some ⟨some "JdkMarshaller", some ⟨some 8, none⟩, none⟩
    swapSpaceSpi := some ⟨some "", some ⟨some "swap", none, none, none, none⟩⟩
    caches := [
      { CacheConfig.unset with
        mode := some .onNode
        backups := some 1
        rebalanceDelay := some 5
        evictionPolicy := some
          ⟨some "RND", some ⟨none, none, some 7⟩, some ⟨some 1, some 2, some 9⟩, none, none⟩
        nearCacheEnabled := none
        nearConfiguration := some ⟨some 4, some ⟨some "unknown", none, none, none, none⟩⟩
        cacheStoreFactory := some
          ⟨some "CacheJdbcPojoStoreFactory", some ⟨none, none⟩, none, some ⟨["a=b"]⟩⟩
        queryMetadata := [{ namedType "Order" .query with databaseTable := some "ORDERS" }]
        storeMetadata := [
          { namedType "Person" .store with
            keyType := some "Integer"
            keyFields := [⟨none, "INTEGER", none, none⟩]
            queryFields := [⟨"id", "Integer"⟩] },
          namedType "Order" .store] }] }

/-- Two clusters that differ only in settings without effect have the same documents, templates and
violations. -/
theorem crowdedCluster_as_plain :
    crowdedCluster ≠ plainCluster ∧ crowdedCluster.effective = plainCluster.effective ∧
      clusterDocument crowdedCluster none .default = clusterDocument plainCluster none .default ∧
        secretProperties crowdedCluster = secretProperties plainCluster ∧
          violations crowdedCluster = violations plainCluster := by
  have same : crowdedCluster.effective = plainCluster.effective := by decide
  exact ⟨by decide, same, same_effect_same_results _ _ same none .default⟩

end GridBeans
