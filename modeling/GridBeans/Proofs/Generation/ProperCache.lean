import GridBeans.Generation.CacheBean
import GridBeans.Proofs.Generation.ProperPart
import GridBeans.Proofs.Generation.ProperType

/-!
# Proper caches

The bean of a cache is a proper script, group by group, as is that of a near cache.
-/
namespace GridBeans.Generation

open GridBeans.Xml GridBeans.Markup GridBeans.Config GridBeans.Catalogue

variable {P : Char → Prop} {c : CacheConfig}

/-! ## Groups of properties -/

theorem cacheLayout_proper (atomicityMode : Spelled P c.atomicityMode) :
    (cacheLayout c).Proper P :=
  .next (property_proper (plain_literal rfl) fun mode _ =>
    WritesTexts.proper mode (spelled_cacheMode mode)) <|
  .next (spelledProperty_proper (plain_literal rfl) atomicityMode) <|
  .next (.onlyIf fun _ => integerProperty_proper c.backups (plain_literal rfl)) <|
  .next (switchProperty_proper c.readFromBackup (plain_literal rfl)) <|
  integerProperty_proper c.startSize (plain_literal rfl)

theorem cacheMemory_proper (memoryMode : Spelled P c.memoryMode) : (cacheMemory c).Proper P :=
  .next (spelledProperty_proper (plain_literal rfl) memoryMode) <|
  .next (integerProperty_proper c.offHeapMaxMemory (plain_literal rfl)) <|
  .next (switchProperty_proper c.swapEnabled (plain_literal rfl)) <|
  switchProperty_proper c.copyOnRead (plain_literal rfl)

theorem cacheRebalance_proper (rebalanceMode : Spelled P c.rebalanceMode) :
    (cacheRebalance c).Proper P :=
  .onlyIf fun _ =>
    .next (spelledProperty_proper (plain_literal rfl) rebalanceMode) <|
    .next (integerProperty_proper c.rebalanceThreadPoolSize (plain_literal rfl)) <|
    .next (integerProperty_proper c.rebalanceBatchSize (plain_literal rfl)) <|
    .next (integerProperty_proper c.rebalanceOrder (plain_literal rfl)) <|
    .next (integerProperty_proper c.rebalanceDelay (plain_literal rfl)) <|
    .next (integerProperty_proper c.rebalanceTimeout (plain_literal rfl)) <|
    .next (integerProperty_proper c.rebalanceThrottle (plain_literal rfl)) .requestBlank

theorem cacheThrough_proper : (cacheThrough c).Proper P :=
  .next (switchProperty_proper c.loadPreviousValue (plain_literal rfl)) <|
  .next (switchProperty_proper c.readThrough (plain_literal rfl)) <|
  switchProperty_proper c.writeThrough (plain_literal rfl)

theorem cacheLocking_proper (lookup : Spelled P c.transactionManagerLookupClassName) :
    (cacheLocking c).Proper P :=
  .next (switchProperty_proper c.invalidate (plain_literal rfl)) <|
  .next (integerProperty_proper c.defaultLockTimeout (plain_literal rfl)) <|
  spelledProperty_proper (plain_literal rfl) lookup

theorem cacheWriteBehind_proper : (cacheWriteBehind c).Proper P :=
  .next (switchProperty_proper c.writeBehindEnabled (plain_literal rfl)) <|
  .next (integerProperty_proper c.writeBehindBatchSize (plain_literal rfl)) <|
  .next (integerProperty_proper c.writeBehindFlushSize (plain_literal rfl)) <|
  .next (integerProperty_proper c.writeBehindFlushFrequency (plain_literal rfl)) <|
  integerProperty_proper c.writeBehindFlushThreadCount (plain_literal rfl)

theorem cacheStatistics_proper : (cacheStatistics c).Proper P :=
  .next (switchProperty_proper c.statisticsEnabled (plain_literal rfl)) <|
  switchProperty_proper c.managementEnabled (plain_literal rfl)

/-! ## Whole beans -/

variable [AdmitsPlain P]

theorem nearProperties_proper {n : NearCacheConfig} (spelled : Spelled P n) :
    (nearProperties n).Proper P :=
  .next (integerProperty_proper n.nearStartSize (plain_literal rfl)) <|
    .discard (evictionPolicy_proper (plain_literal rfl) spelled)

/-- A near cache is proper over the characters of its policy; its id, if it has one, is fixed. -/
theorem nearCacheBean_proper {id : Option String} {near : Option NearCacheConfig}
    (plain : ∀ text, id = some text → Plain text) (spelled : Spelled P near) :
    (nearCacheBean id near).Proper P := by
  have className : ProperAttributes P [writtenAttr "class" nearCacheClass] :=
    .one (by decide) (plain_literal rfl)
  have properties : (Script.forSome near nearProperties).Proper P :=
    .forSome fun n given => nearProperties_proper (spelled_option.mp spelled n given)
  cases id with
  | none => exact .block ⟨structural_bean.named, structural_bean.other, className⟩ properties
  | some text =>
    have both : ProperAttributes P [writtenAttr "id" text, writtenAttr "class" nearCacheClass] :=
      .cons (by decide) (plain text rfl) (by simp [writtenAttr]) className
    exact .block ⟨structural_bean.named, structural_bean.other, both⟩ properties

theorem indexedClasses_over {types : List IndexedType} (spelled : Spelled P types) :
    ∀ name ∈ indexedClasses types, Over P name := by
  intro name mem
  obtain ⟨t, inside, named⟩ := List.mem_flatMap.mp mem
  obtain ⟨keyClass, valueClass⟩ :=
    (spelled_indexedType t).mp ((spelled_list types).mp spelled t inside)
  simp only [List.mem_cons, List.not_mem_nil, or_false] at named
  rcases named with rfl | rfl
  · exact over_resolveClassName ((spelled_text t.keyClass).mp keyClass)
  · exact over_resolveClassName ((spelled_text t.valueClass).mp valueClass)

theorem cacheNear_proper (near : Spelled P c.nearConfiguration) : (cacheNear c).Proper P :=
  .onlyIf fun _ => .next .sectionStart <|
    propertyBlock_proper (plain_literal rfl) (nearCacheBean_proper nofun near)

theorem cacheQueries_proper (indexedTypes : Spelled P c.indexedTypes)
    (sqlFunctionClasses : Spelled P c.sqlFunctionClasses) : (cacheQueries c).Proper P :=
  .next (switchProperty_proper c.sqlEscapeAll (plain_literal rfl)) <|
  .next (integerProperty_proper c.sqlOnheapRowCacheSize (plain_literal rfl)) <|
  .next (integerProperty_proper c.longQueryWarningTimeout (plain_literal rfl)) <|
  .next (listProperty_proper (plain_literal rfl) structural_list
    (indexedClasses_over indexedTypes)) <|
  listProperty_proper (plain_literal rfl) structural_array
    ((spelled_texts c.sqlFunctionClasses).mp sqlFunctionClasses)

/-- All groups of a cache are proper, each from the texts that it writes. -/
theorem cacheProperties_proper (spelled : Spelled P c) : (cacheProperties c).Proper P := by
  obtain ⟨name, atomicityMode, memoryMode, eviction, near, indexedTypes, sqlFunctionClasses,
    rebalanceMode, store, lookup, queryMetadata, storeMetadata⟩ :=
      (spelled_cacheConfig c).mp spelled
  exact .next (spelledProperty_proper (plain_literal rfl) name) <|
    .next .requestBlank <|
    .next (cacheLayout_proper atomicityMode) <|
    .next .requestBlank <|
    .next (cacheMemory_proper memoryMode) <|
    .next .requestBlank <|
    .next (.discard (evictionPolicy_proper (plain_literal rfl) eviction)) <|
    .next .requestBlank <|
    .next (cacheNear_proper near) <|
    .next .requestBlank <|
    .next (cacheQueries_proper indexedTypes sqlFunctionClasses) <|
    .next .requestBlank <|
    .next (cacheRebalance_proper rebalanceMode) <|
    .next (.discard (storeFactory_proper store)) <|
    .next .requestBlank <|
    .next cacheThrough_proper <|
    .next .requestBlank <|
    .next (cacheLocking_proper lookup) <|
    .next .requestBlank <|
    .next cacheWriteBehind_proper <|
    .next .requestBlank <|
    .next cacheStatistics_proper <|
    .next .requestBlank <|
    .next (integerProperty_proper c.maxConcurrentAsyncOperations (plain_literal rfl)) <|
    typeEntries_proper queryMetadata storeMetadata

/-- The bean of a cache is a proper script over the characters of its texts. -/
theorem cacheBean_proper (spelled : Spelled P c) : (cacheBean c).Proper P :=
  beanBlock_proper (plain_literal rfl) (cacheProperties_proper spelled)

end GridBeans.Generation
