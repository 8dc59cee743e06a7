import GridBeans.Proofs.Generation.Failing

/-!
# Faults of a description

All the faults for which a description cannot be generated, in the order in which a reader of the
description would list them: the near cache of a client, discovery, event groups, marshaller, swap
space, and then cache by cache. Generation ends in the first of them.
-/
namespace GridBeans.Generation

open GridBeans.Config GridBeans.Catalogue

/-! ## What can be wrong -/

/-- A kind has to be one of the known names. -/
def kindFaults (slot : Slot) (known : List String) (kind : String) : List Failure :=
  if kind ∈ known then [] else [.unknownKind slot kind]

/-- A kind that may be left out or left empty. -/
def optionalKindFaults (slot : Slot) (known : List String) : Option String → List Failure
  | none => []
  | some kind => if kind = "" then [] else kindFaults slot known kind

/-- The section of a chosen kind has to be given. -/
def sectionFaults {α : Type} (slot : Slot) (kind : String) (given : Option α) : List Failure :=
  if given.isSome then [] else [.missingSection slot kind]

def evictionKinds : List String := ["LRU", "RND", "FIFO", "SORTED"]

def evictionFaults : Option EvictionPolicyConfig → List Failure
  | none => []
  | some p => optionalKindFaults .evictionPolicy evictionKinds p.kind

def nearFaults : Option NearCacheConfig → List Failure
  | none => []
  | some n => evictionFaults n.nearEvictionPolicy

def finderKinds : List String :=
  ["Multicast", "Vm", "S3", "Cloud", "GoogleStorage", "Jdbc", "SharedFs"]

/-- What is wrong with a discovery section. An empty kind is unknown as well, and a bucket needs no
section. -/
def discoveryFaults : Option DiscoveryConfig → List Failure
  | none => []
  | some d =>
    kindFaults .discovery finderKinds d.kind ++
      (if d.kind = "Multicast" then sectionFaults .discovery d.kind d.multicast
      else if d.kind = "Vm" then sectionFaults .discovery d.kind d.vm
      else if d.kind = "Cloud" then sectionFaults .discovery d.kind d.cloud
      else if d.kind = "GoogleStorage" then sectionFaults .discovery d.kind d.googleStorage
      else if d.kind = "Jdbc" then sectionFaults .discovery d.kind d.jdbc
      else if d.kind = "SharedFs" then sectionFaults .discovery d.kind d.sharedFs
      else [])

/-- Every name that no group of events has. -/
def eventFaults (names : List String) : List Failure :=
  names.flatMap fun name =>
    if name ∈ eventGroups.map EventGroup.name then [] else [.unknownEventGroup name]

def marshallerKinds : List String := ["OptimizedMarshaller", "JdkMarshaller"]

def marshallerFaults : Option MarshallerConfig → List Failure
  | none => []
  | some m => optionalKindFaults .marshaller marshallerKinds m.kind

def swapSpaceFaults : Option SwapSpaceSpiConfig → List Failure
  | none => []
  | some s => optionalKindFaults .swapSpace ["FileSwapSpaceSpi"] s.kind

/-- A dialect has to be known and needs a data source. -/
def dialectFaults (f : JdbcPojoStoreFactory) : List Failure :=
  match f.dialect with
  | none => []
  | some dialect =>
    if dialect = "" then []
    else
      kindFaults .dialect (dialects.map Dialect.short) dialect ++
        (if f.dataSourceBean = none ∨ f.dataSourceBean = some "" then
          [.missingField "CacheJdbcPojoStoreFactory" "dataSourceBean"]
        else [])

def storeKinds : List String :=
  ["CacheJdbcPojoStoreFactory", "CacheJdbcBlobStoreFactory", "CacheHibernateBlobStoreFactory"]

/-- What is wrong with the section of the chosen store factory. -/
def storeSectionFaults (f : StoreFactoryConfig) (kind : String) : List Failure :=
  if kind = "CacheJdbcPojoStoreFactory" then
    sectionFaults .storeFactory kind f.jdbcPojo ++ f.jdbcPojo.toList.flatMap dialectFaults
  else if kind = "CacheJdbcBlobStoreFactory" then sectionFaults .storeFactory kind f.jdbcBlob
  else if kind = "CacheHibernateBlobStoreFactory" then
    sectionFaults .storeFactory kind f.hibernateBlob
  else []

def storeFaults : Option StoreFactoryConfig → List Failure
  | none => []
  | some f =>
    optionalKindFaults .storeFactory storeKinds f.kind ++
      f.kind.toList.flatMap (storeSectionFaults f)

/-- What is wrong with a cache. Its near cache counts only where it is switched on. -/
def cacheFaults (c : CacheConfig) : List Failure :=
  evictionFaults c.evictionPolicy ++
    (if c.nearCacheEnabled = some true then nearFaults c.nearConfiguration else []) ++
    storeFaults c.cacheStoreFactory

/-- All faults of a cluster, with the near cache of a client. -/
def faults (c : ClusterConfig) (clientNear : Option NearCacheConfig) : List Failure :=
  nearFaults clientNear ++ discoveryFaults c.discovery ++ eventFaults c.includeEventTypes ++
    marshallerFaults c.marshaller ++ swapSpaceFaults c.swapSpaceSpi ++ c.caches.flatMap cacheFaults

/-! ## Looking up kinds -/

/-- A kind is found under its name, or it is not known. -/
theorem find_cases {κ : Type} {all : List κ} {name : κ → String} {known : List String}
    (same : all.map name = known) (slot : Slot) (kind : String) :
    (∃ k, all.find? (fun k => name k == kind) = some k ∧ name k = kind ∧
        kindFaults slot known kind = []) ∨
      (all.find? (fun k => name k == kind) = none ∧
        kindFaults slot known kind = [.unknownKind slot kind]) := by
  cases hit : all.find? (fun k => name k == kind) with
  | some k =>
    have named : name k = kind := by simpa using List.find?_some hit
    have isKnown : kind ∈ known := by
      rw [← same, ← named]
      exact List.mem_map_of_mem (List.mem_of_find?_eq_some hit)
    exact .inl ⟨k, rfl, named, if_pos isKnown⟩
  | none =>
    have unknown : kind ∉ known := by
      rw [← same, List.mem_map]
      rintro ⟨k, inside, named⟩
      simpa [named] using List.find?_eq_none.mp hit k inside
    exact .inr ⟨rfl, if_neg unknown⟩

theorem not_mem_of_kindFaults {slot : Slot} {known : List String} {kind : String}
    (fault : kindFaults slot known kind = [.unknownKind slot kind]) : kind ∉ known := by
  intro isKnown
  rw [kindFaults, if_pos isKnown] at fault
  cases fault

/-! A kind found under a name has this name. -/

theorem EvictionKind.name_of_found {kind : String} {k : EvictionKind}
    (found : ofName kind = .ok k) : k.name = kind := by
  grind [ofName]

theorem FinderKind.name_of_found {kind : String} {k : FinderKind}
    (found : ofName kind = .ok k) : k.name = kind := by
  grind [ofName]

theorem MarshallerKind.name_of_found {kind : String} {k : MarshallerKind}
    (found : ofName kind = .ok k) : k.name = kind := by
  grind [ofName]

theorem StoreKind.name_of_found {kind : String} {k : StoreKind}
    (found : ofName kind = .ok k) : k.name = kind := by
  grind [ofName]

theorem nonEmpty?_some (text : String) :
    Text.nonEmpty? (some text) = if text = "" then none else some text := by
  simp only [Text.nonEmpty?, String.isEmpty_iff]

theorem nonEmpty?_nonEmpty? (kind : Option String) :
    Text.nonEmpty? (Text.nonEmpty? kind) = Text.nonEmpty? kind := by
  cases kind with
  | none => rfl
  | some name =>
    rw [nonEmpty?_some]
    split
    · rfl
    · rename_i given
      rw [nonEmpty?_some, if_neg given]

/-- An empty text is blank. -/
theorem isBlankOrAbsent_nonEmpty? (kind : Option String) :
    Text.isBlankOrAbsent (Text.nonEmpty? kind) = Text.isBlankOrAbsent kind := by
  cases kind with
  | none => rfl
  | some name =>
    rw [nonEmpty?_some]
    split
    · rename_i empty
      rw [empty]
      rfl
    · rfl

/-- A kind that may be left out is looked at only if it is not empty. -/
theorem nonEmpty?_cases (slot : Slot) (known : List String) (kind : Option String) :
    (Text.nonEmpty? kind = none ∧ optionalKindFaults slot known kind = [] ∧
        (kind = none ∨ kind = some "")) ∨
      ∃ chosen, kind = some chosen ∧ Text.nonEmpty? kind = some chosen ∧ chosen ≠ "" ∧
        optionalKindFaults slot known kind = kindFaults slot known chosen := by
  cases kind with
  | none => exact .inl ⟨rfl, rfl, .inl rfl⟩
  | some chosen =>
    by_cases empty : chosen = ""
    · exact .inl ⟨by simp [Text.nonEmpty?, empty], by simp [optionalKindFaults, empty],
        .inr (by rw [empty])⟩
    · exact .inr ⟨chosen, rfl, by simp [Text.nonEmpty?, empty], empty,
        by simp [optionalKindFaults, empty]⟩

theorem failure?_requiredSection {α β : Type} (f : α → β) (slot : Slot) (kind : String)
    (given : Option α) :
    (Script.ofExcept (f <$> requiredSection slot kind given)).failure? =
      (sectionFaults slot kind given).head? := by
  cases given with
  | none => rfl
  | some a => rfl

/-! ## Parts -/

/-- A policy fails exactly if its kind is unknown; its sections may all be missing. -/
theorem failure?_evictionPolicy (policy : Option EvictionPolicyConfig) (propertyName : String) :
    (evictionPolicy policy propertyName).failure? = (evictionFaults policy).head? := by
  cases policy with
  | none => rfl
  | some p =>
    rw [evictionPolicy, evictionFaults]
    rcases nonEmpty?_cases .evictionPolicy evictionKinds p.kind with
      ⟨skipped, fine, -⟩ | ⟨kind, -, chosen, -, same⟩
    · rw [skipped, fine]
      rfl
    · have names : EvictionKind.all.map EvictionKind.name = evictionKinds := rfl
      rw [chosen, same]
      simp only [Script.failure?_ofExcept_bind, EvictionKind.ofName]
      rcases find_cases names .evictionPolicy kind with ⟨k, hit, -, fine⟩ | ⟨missing, fault⟩
      · simp [hit, fine]
      · simp [missing, fault]

theorem failure?_marshaller (config : Option MarshallerConfig) :
    (marshaller config).failure? = (marshallerFaults config).head? := by
  cases config with
  | none => rfl
  | some m =>
    rw [marshaller, marshallerFaults]
    rcases nonEmpty?_cases .marshaller marshallerKinds m.kind with
      ⟨skipped, fine, -⟩ | ⟨kind, -, chosen, -, same⟩
    · rw [skipped, fine]
      rfl
    · have names : MarshallerKind.all.map MarshallerKind.name = marshallerKinds := rfl
      rw [chosen, same]
      simp only [Script.failure?_ofExcept_bind, MarshallerKind.ofName]
      rcases find_cases names .marshaller kind with ⟨k, hit, -, fine⟩ | ⟨missing, fault⟩
      · simp [hit, fine]
      · simp [missing, fault]

theorem failure?_swapSpace (config : Option SwapSpaceSpiConfig) :
    (swapSpace config).failure? = (swapSpaceFaults config).head? := by
  cases config with
  | none => rfl
  | some s =>
    rw [swapSpace, swapSpaceFaults]
    rcases nonEmpty?_cases .swapSpace ["FileSwapSpaceSpi"] s.kind with
      ⟨skipped, fine, -⟩ | ⟨kind, -, chosen, -, same⟩
    · rw [skipped, fine]
      rfl
    · rw [chosen, same]
      by_cases isFile : kind = "FileSwapSpaceSpi"
      · simp [isFile, fileSwapSpaceKind, kindFaults]
      · simp [isFile, fileSwapSpaceKind, kindFaults]

theorem failure?_nearProperties (n : NearCacheConfig) :
    (nearProperties n).failure? = (evictionFaults n.nearEvictionPolicy).head? := by
  simp [nearProperties, failure?_evictionPolicy]

theorem failure?_nearCacheBean (id : Option String) (near : Option NearCacheConfig) :
    (nearCacheBean id near).failure? = (nearFaults near).head? := by
  simp only [nearCacheBean, Script.failure?_block, Script.failure?_forSome]
  cases near with
  | none => rfl
  | some n => exact failure?_nearProperties n

/-- Discovery fails with an unknown finder, or with a missing section that the finder needs. -/
theorem failure?_discovery (d : DiscoveryConfig) :
    (discovery d).failure? = (discoveryFaults (some d)).head? := by
  have names : FinderKind.all.map FinderKind.name = finderKinds := rfl
  have finderOnly : (discovery d).failure? = (Script.ofExcept (IpFinder.ofConfig d)).failure? := by
    rw [discovery, Script.failure?_ofExcept_bind]
    cases IpFinder.ofConfig d with
    | error e => rfl
    | ok finder =>
      show (Script.sectionStart >>= fun _ => _).failure? = none
      simp
  rw [finderOnly, discoveryFaults, IpFinder.ofConfig, FinderKind.ofName]
  rcases find_cases names .discovery d.kind with ⟨k, hit, named, fine⟩ | ⟨missing, fault⟩
  · rw [hit, fine, List.nil_append, ← named]
    cases k with
    | multicast =>
      simp only [FinderKind.name, if_true]
      exact failure?_requiredSection IpFinder.multicast .discovery "Multicast" d.multicast
    | vm =>
      simp only [FinderKind.name, String.reduceEq, if_false, if_true]
      exact failure?_requiredSection IpFinder.vm .discovery "Vm" d.vm
    | s3 =>
      simp only [FinderKind.name, String.reduceEq, if_false]
      rfl
    | cloud =>
      simp only [FinderKind.name, String.reduceEq, if_false, if_true]
      exact failure?_requiredSection IpFinder.cloud .discovery "Cloud" d.cloud
    | googleStorage =>
      simp only [FinderKind.name, String.reduceEq, if_false, if_true]
      exact failure?_requiredSection IpFinder.googleStorage .discovery "GoogleStorage"
        d.googleStorage
    | jdbc =>
      simp only [FinderKind.name, String.reduceEq, if_false, if_true]
      exact failure?_requiredSection IpFinder.jdbc .discovery "Jdbc" d.jdbc
    | sharedFs =>
      simp only [FinderKind.name, String.reduceEq, if_false, if_true]
      exact failure?_requiredSection IpFinder.sharedFs .discovery "SharedFs" d.sharedFs
  · rw [missing, fault]
    rfl

/-! ## Event types -/

/-- The catalogue has a group of this name. -/
def IsGroup (name : String) : Prop :=
  name ∈ eventGroups.map EventGroup.name

instance (name : String) : Decidable (IsGroup name) :=
  inferInstanceAs (Decidable (name ∈ eventGroups.map EventGroup.name))

/-- A name is that of a group, whose events are found under it, or nothing is found. -/
theorem eventsOf?_cases (name : String) :
    (∃ g ∈ eventGroups, g.name = name ∧ eventsOf? name = some g.events) ∨
      (¬ IsGroup name ∧ eventsOf? name = none) := by
  rw [eventsOf?]
  cases hit : eventGroups.find? fun group => group.name == name with
  | some g =>
    have named : g.name = name := by simpa using List.find?_some hit
    exact .inl ⟨g, List.mem_of_find?_eq_some hit, named, rfl⟩
  | none =>
    refine .inr ⟨fun isGroup => ?_, rfl⟩
    obtain ⟨g, inside, named⟩ := List.mem_map.mp isGroup
    simpa [named] using List.find?_eq_none.mp hit g inside

theorem failure?_groupNamed (name : String) :
    (Script.ofExcept (groupNamed name)).failure? =
      (if name ∈ eventGroups.map EventGroup.name then [] else
        [Failure.unknownEventGroup name]).head? := by
  rw [groupNamed]
  rcases eventsOf?_cases name with ⟨g, inside, named, events⟩ |
    ⟨(unknown : name ∉ eventGroups.map EventGroup.name), none⟩
  · rw [events, if_pos (named ▸ List.mem_map_of_mem inside)]
    rfl
  · rw [none, if_neg unknown]
    rfl

/-- A list that is computed item by item fails where its first item does. -/
theorem failure?_mapM {α β : Type} (f : α → Except Failure β) (items : List α) :
    (Script.ofExcept (items.mapM f)).failure? =
      items.findSome? fun a => (Script.ofExcept (f a)).failure? := by
  induction items with
  | nil => rfl
  | cons a rest ih =>
    rw [List.mapM_cons, List.findSome?_cons, ← ih]
    cases f a with
    | error e => rfl
    | ok b =>
      cases rest.mapM f with
      | error e => rfl
      | ok bs => rfl

/-- The first name that no group has is the failure of the events. -/
theorem failure?_eventTypes (names : List String) :
    (eventTypes names).failure? = (eventFaults names).head? := by
  have lookedUp : (Script.ofExcept (names.mapM groupNamed)).failure? =
      (eventFaults names).head? := by
    rw [failure?_mapM, eventFaults, List.head?_flatMap]
    simp only [failure?_groupNamed]
  rw [eventTypes]
  split
  · rename_i empty
    rw [List.isEmpty_iff.mp empty]
    rfl
  · rw [← lookedUp, Script.failure?_ofExcept_bind]
    cases names.mapM groupNamed with
    | error e => rfl
    | ok groups =>
      show (Script.sectionStart >>= fun _ => _).failure? = none
      simp only [Script.failure?_next, Script.failure?_sectionStart, Script.failure?_requestBlank,
        failure?_propertyBlock, Option.none_or, Option.or_none]
      split
      · rfl
      · simp

/-! ## Store factories -/

/-- A data source fails with an unknown dialect, or with the missing bean of a known one. -/
theorem failure?_dataSourceOf (f : JdbcPojoStoreFactory) :
    (Script.ofExcept (dataSourceOf f)).failure? = (dialectFaults f).head? := by
  rw [dataSourceOf, dialectFaults]
  cases f.dialect with
  | none => rfl
  | some dialect =>
    rw [nonEmpty?_some]
    by_cases empty : dialect = ""
    · simp only [if_pos empty]
      rfl
    · simp only [if_neg empty, dataSourceClass?]
      rcases find_cases rfl .dialect dialect with ⟨known, hit, -, fine⟩ | ⟨missing, fault⟩
      · rw [hit, fine]
        cases f.dataSourceBean with
        | none => rfl
        | some beanId =>
          by_cases blank : beanId = ""
          · simp [blank, Text.nonEmpty?, Script.failure?, Script.ofExcept, StoreKind.name]
          · simp [blank, Text.nonEmpty?, Script.failure?, Script.ofExcept]
      · rw [missing, fault]
        rfl

theorem failure?_storeFactoryBean {α : Type} [HasMembers α] (kind : StoreKind) (settings : α) :
    (storeFactoryBean kind settings).failure? = none :=
  failure?_shapedBean _ _ _ _

theorem failure?_storeFactoryOf (kind : StoreKind) (f : StoreFactoryConfig) :
    (storeFactoryOf kind f).failure? = (storeSectionFaults f kind.name).head? := by
  cases kind with
  | jdbcPojo =>
    simp only [storeFactoryOf, storeSectionFaults, StoreKind.name, if_true,
      Script.failure?_ofExcept_bind]
    cases f.jdbcPojo with
    | none => rfl
    | some settings =>
      have registers : (Script.ofExcept (dataSourceOf settings) >>= fun source =>
          Script.forSome source Script.register).failure? = (dialectFaults settings).head? := by
        rw [← failure?_dataSourceOf, Script.failure?_ofExcept_bind]
        cases dataSourceOf settings with
        | error e => rfl
        | ok source =>
          cases source with
          | none => rfl
          | some s => rfl
      show (storeFactoryBean .jdbcPojo settings >>= fun _ => _).failure? = _
      rw [Script.failure?_next, failure?_storeFactoryBean, Option.none_or, registers]
      simp [sectionFaults]
  | jdbcBlob =>
    simp only [storeFactoryOf, storeSectionFaults, StoreKind.name, String.reduceEq, if_false,
      if_true, Script.failure?_ofExcept_bind]
    cases f.jdbcBlob with
    | none => rfl
    | some settings => exact failure?_storeFactoryBean .jdbcBlob settings
  | hibernateBlob =>
    simp only [storeFactoryOf, storeSectionFaults, StoreKind.name, String.reduceEq, if_false,
      if_true, Script.failure?_ofExcept_bind]
    cases f.hibernateBlob with
    | none => rfl
    | some settings => exact failure?_storeFactoryBean .hibernateBlob settings

/-- A store fails with the first of its faults, although its bean is written ahead of those of the
dialect. -/
theorem failure?_storeFactory (factory : Option StoreFactoryConfig) :
    (storeFactory factory).failure? = (storeFaults factory).head? := by
  cases factory with
  | none => rfl
  | some f =>
    rw [storeFactory, storeFaults]
    rcases nonEmpty?_cases .storeFactory storeKinds f.kind with
      ⟨skipped, fine, unset⟩ | ⟨kind, given, chosen, -, same⟩
    · rw [skipped, fine]
      rcases unset with unset | unset
      · rw [unset]
        rfl
      · rw [unset]
        rfl
    · have names : StoreKind.all.map StoreKind.name = storeKinds := rfl
      rw [chosen, same, given]
      simp only [Script.failure?_ofExcept_bind, StoreKind.ofName]
      rcases find_cases names .storeFactory kind with ⟨k, hit, named, fine⟩ | ⟨missing, fault⟩
      · rw [hit, fine, ← named]
        simp [failure?_storeFactoryOf]
      · rw [missing, fault]
        rfl

/-! ## Caches and nodes -/

theorem failure?_cacheNear (c : CacheConfig) :
    (cacheNear c).failure? =
      (if c.nearCacheEnabled = some true then nearFaults c.nearConfiguration else []).head? := by
  rw [cacheNear, Script.failure?_onlyIf]
  split
  · simp [failure?_nearCacheBean]
  · rfl

/-- A cache fails with the first fault in the order in which its parts are written. -/
theorem failure?_cacheBean (c : CacheConfig) : (cacheBean c).failure? = (cacheFaults c).head? := by
  simp only [cacheBean, cacheProperties, cacheFaults, List.head?_append, ← failure?_cacheNear,
    ← failure?_evictionPolicy c.evictionPolicy "evictionPolicy", ← failure?_storeFactory]
  simp [cacheLayout, cacheMemory, cacheQueries, cacheRebalance, cacheThrough, cacheLocking,
    cacheWriteBehind, cacheStatistics, Option.or_assoc]

/-- Caches are written in order, so the first one with a fault decides. -/
theorem failure?_nodeCaches (caches : List CacheConfig) :
    (nodeCaches caches).failure? = (caches.flatMap cacheFaults).head? := by
  rw [nodeCaches, List.head?_flatMap]
  simp only [← failure?_cacheBean]
  split
  · rename_i empty
    rw [List.isEmpty_iff.mp empty]
    rfl
  · simp

theorem failure?_chosenPart (part : Script Bool) :
    (chosenPart part).failure? = part.failure? := by
  rw [chosenPart, Script.failure?_bind, Script.failure?]
  cases part.outcome with
  | error e => rfl
  | ok chosen => cases chosen <;> rfl

theorem failure?_clientNearBean (clientNear : Option NearCacheConfig) :
    (clientNearBean clientNear).failure? = (nearFaults clientNear).head? := by
  cases clientNear with
  | none => rfl
  | some n => simp [clientNearBean, failure?_nearCacheBean]

theorem failure?_nodeDiscovery (c : ClusterConfig) :
    (nodeDiscovery c).failure? = (discoveryFaults c.discovery).head? := by
  rw [nodeDiscovery]
  cases c.discovery with
  | none => rfl
  | some d => simp [failure?_discovery]

/-- The beans of a node end in the first fault of their description. -/
theorem failure?_nodeBeans (c : ClusterConfig) (clientNear : Option NearCacheConfig) :
    (nodeBeans c clientNear).failure? = (faults c clientNear).head? := by
  simp only [faults, List.head?_append, ← failure?_clientNearBean, ← failure?_nodeDiscovery,
    ← failure?_eventTypes, ← failure?_marshaller, ← failure?_swapSpace, ← failure?_nodeCaches]
  simp [nodeBeans, nodeProperties, clientMode, nodeNetwork, nodeMarshalling, nodeMetrics,
    nodeClassLoading, nodeTime, nodeThreadPools, failure?_chosenPart, Option.or_assoc]

/-! ## Documents -/

/-- A document is refused exactly with the first of the faults of its cluster. -/
theorem clusterDocument_error_iff (c : ClusterConfig) (clientNear : Option NearCacheConfig)
    (options : DocumentOptions) (e : Failure) :
    clusterDocument c clientNear options = .error e ↔ (faults c clientNear).head? = some e := by
  rw [← failure?_nodeBeans, ← Script.outcome_eq_error_iff, clusterDocument]
  cases (nodeBeans c clientNear).outcome with
  | error other => simp
  | ok u => simp

/-- A document is generated exactly if its cluster has no fault. -/
theorem clusterDocument_ok_iff (c : ClusterConfig) (clientNear : Option NearCacheConfig)
    (options : DocumentOptions) :
    (∃ text, clusterDocument c clientNear options = .ok text) ↔ faults c clientNear = [] := by
  rw [← List.head?_eq_none_iff, ← failure?_nodeBeans, ← Script.exists_outcome_ok_iff,
    clusterDocument]
  cases (nodeBeans c clientNear).outcome with
  | error e => simp
  | ok u => simp

/-- The template is refused with the failure that a document without a client has, since it runs the
same script. -/
theorem secretProperties_error_iff (c : ClusterConfig) (e : Failure) :
    secretProperties c = .error e ↔ (faults c none).head? = some e := by
  rw [← failure?_nodeBeans, ← Script.outcome_eq_error_iff, secretProperties]
  cases (nodeBeans c none).outcome with
  | error other => simp
  | ok u => simp

theorem secretProperties_ok_iff (c : ClusterConfig) :
    (∃ text, secretProperties c = .ok text) ↔ faults c none = [] := by
  rw [← List.head?_eq_none_iff, ← failure?_nodeBeans, ← Script.exists_outcome_ok_iff,
    secretProperties]
  cases (nodeBeans c none).outcome with
  | error e => simp
  | ok u => simp

/-- A document is generated exactly if there is no fault, and otherwise the first fault is
reported. -/
theorem clusterDocument_reports_first_fault (c : ClusterConfig)
    (clientNear : Option NearCacheConfig) (options : DocumentOptions) :
    ((∃ text, clusterDocument c clientNear options = .ok text) ↔ faults c clientNear = []) ∧
      ∀ e, clusterDocument c clientNear options = .error e ↔
        (faults c clientNear).head? = some e :=
  ⟨clusterDocument_ok_iff c clientNear options, clusterDocument_error_iff c clientNear options⟩

end GridBeans.Generation
