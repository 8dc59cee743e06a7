import GridBeans.Proofs.Consistency

/-!
# Broken rules

The rules for a description of a cluster, stated without the check that looks for violations, and
one by one for everything in the description that they apply to. The check reports each rule that is
broken once, in the order of the rules, whatever else is broken; and what it reports for a cache
depends on the position of the cache, the cache and the swap space alone.
-/
namespace GridBeans

open GridBeans.Config GridBeans.Catalogue GridBeans.Generation GridBeans.Text

/-! ## Rules -/

/-- The text is given and has a character that is not blank. -/
def Filled (value : Option String) : Prop :=
  ∃ text ∈ value, ∃ c ∈ text.toList, isBlankChar c = false

/-- The checker's test for blank texts fails exactly for texts that are filled. -/
theorem isBlankOrAbsent_eq_false (value : Option String) :
    isBlankOrAbsent value = false ↔ Filled value := by
  cases value with
  | none => simp [isBlankOrAbsent, Filled]
  | some text => simp [isBlankOrAbsent, isBlank, Filled, List.all_eq_false]

instance (value : Option String) : Decidable (Filled value) :=
  decidable_of_iff _ (isBlankOrAbsent_eq_false value)

/-- A field that is looked up in a section is filled exactly if the section is given and has it
filled. -/
theorem filled_bind {α : Type} (given : Option α) (field : α → Option String) :
    Filled (given.bind field) ↔ ∃ a ∈ given, Filled (field a) := by
  cases given <;> simp [Filled]

/-- What holds of a section that is given, part by part. -/
theorem given_and {α : Type} (given : Option α) (P Q : α → Prop) :
    ((∃ a, given = some a ∧ P a) ∧ ∃ a, given = some a ∧ Q a) ↔
      ∃ a, given = some a ∧ P a ∧ Q a := by
  cases given <;> simp

/-- The cluster has a swap space of some kind. -/
def Swaps (c : ClusterConfig) : Prop :=
  ∃ space ∈ c.swapSpaceSpi, Filled space.kind

/-- The cache has a store of some kind. -/
def Stores (cache : CacheConfig) : Prop :=
  ∃ factory ∈ cache.cacheStoreFactory, Filled factory.kind

/-- The cache reads or writes through. -/
def GoesThrough (cache : CacheConfig) : Prop :=
  cache.readThrough = some true ∨ cache.writeThrough = some true

theorem hasSwapSpace_iff (c : ClusterConfig) : hasSwapSpace c = true ↔ Swaps c := by
  rw [hasSwapSpace, Bool.not_eq_true', isBlankOrAbsent_eq_false, Swaps, filled_bind]

theorem hasStore_iff (cache : CacheConfig) : hasStore cache = true ↔ Stores cache := by
  rw [hasStore, Bool.not_eq_true', isBlankOrAbsent_eq_false, Stores, filled_bind]

theorem isThrough_iff (cache : CacheConfig) : isThrough cache = true ↔ GoesThrough cache := by
  simp [isThrough, GoesThrough]

instance : DecidablePred Swaps := fun c => decidable_of_iff _ (hasSwapSpace_iff c)

instance : DecidablePred Stores := fun cache => decidable_of_iff _ (hasStore_iff cache)

instance : DecidablePred GoesThrough := fun cache => decidable_of_iff _ (isThrough_iff cache)

/-- What a discovery section needs. A section of settings that is missing has none of them. -/
structure Discovers (d : DiscoveryConfig) : Prop where
  known : d.kind ∈ finderKinds
  vm : d.kind = "Vm" → ∃ s ∈ d.vm, s.addresses ≠ []
  s3 : d.kind = "S3" → ∃ s ∈ d.s3, Filled s.bucketName
  cloud : d.kind = "Cloud" → ∃ s ∈ d.cloud, Filled s.identity ∧ Filled s.provider
  googleStorage : d.kind = "GoogleStorage" → ∃ s ∈ d.googleStorage,
    Filled s.projectName ∧ Filled s.bucketName ∧ Filled s.serviceAccountP12FilePath ∧
      Filled s.serviceAccountId

/-- A cluster that can be used as it stands: named, with what its finder needs, known groups, and
caches whose store, swapping and writing behind go together. -/
structure Consistent (c : ClusterConfig) : Prop where
  named : Filled c.name
  discovers : ∀ d ∈ c.discovery, Discovers d
  grouped : ∀ name ∈ c.includeEventTypes, IsGroup name
  swaps : ∀ cache ∈ c.caches, cache.swapEnabled = some true → Swaps c
  stores : ∀ cache ∈ c.caches, Stores cache ↔ GoesThrough cache
  writesBehind : ∀ cache ∈ c.caches, cache.writeBehindEnabled = some true → Stores cache

/-! ## Rules one by one -/

/-- A rule for something in the description of a cluster. -/
inductive Rule where
  | named
  | finderKnown (d : DiscoveryConfig)
  | addressed (d : DiscoveryConfig)
  | fieldFilled (kind : FinderKind) (field : String) (value : Option String)
  | groupKnown (name : String)
  | swapBacked (index : Nat) (cache : CacheConfig)
  | storeUsed (index : Nat) (cache : CacheConfig)
  | storeGiven (index : Nat) (cache : CacheConfig)
  | writeBehindStored (index : Nat) (cache : CacheConfig)
  deriving DecidableEq, Repr

/-- The cluster keeps the rule. -/
def Rule.Holds (c : ClusterConfig) : Rule → Prop
  | named => Filled c.name
  | finderKnown d => d.kind ∈ finderKinds
  | addressed d => ∃ s ∈ d.vm, s.addresses ≠ []
  | fieldFilled _ _ value => Filled value
  | groupKnown name => IsGroup name
  | swapBacked _ cache => cache.swapEnabled = some true → Swaps c
  | storeUsed _ cache => Stores cache → GoesThrough cache
  | storeGiven _ cache => GoesThrough cache → Stores cache
  | writeBehindStored _ cache => cache.writeBehindEnabled = some true → Stores cache

/-- What is reported where the rule is broken. -/
def Rule.report : Rule → Violation
  | named => .nameMissing
  | finderKnown d => .discoveryFailure (.unknownKind .discovery d.kind)
  | addressed _ => .addressesMissing
  | fieldFilled kind field _ => .discoveryFieldMissing kind field
  | groupKnown name => .unknownEventGroup name
  | swapBacked index cache => .swapSpaceMissing ⟨index, cache.name⟩
  | storeUsed index cache => .storeUnused ⟨index, cache.name⟩
  | storeGiven index cache => .throughWithoutStore ⟨index, cache.name⟩
  | writeBehindStored index cache => .writeBehindWithoutStore ⟨index, cache.name⟩

instance (c : ClusterConfig) : DecidablePred (Rule.Holds c)
  | .named => inferInstanceAs (Decidable (Filled c.name))
  | .finderKnown d => inferInstanceAs (Decidable (d.kind ∈ finderKinds))
  | .addressed d => inferInstanceAs (Decidable (∃ s ∈ d.vm, s.addresses ≠ []))
  | .fieldFilled _ _ value => inferInstanceAs (Decidable (Filled value))
  | .groupKnown name => inferInstanceAs (Decidable (IsGroup name))
  | .swapBacked _ cache => inferInstanceAs (Decidable (cache.swapEnabled = some true → Swaps c))
  | .storeUsed _ cache => inferInstanceAs (Decidable (Stores cache → GoesThrough cache))
  | .storeGiven _ cache => inferInstanceAs (Decidable (GoesThrough cache → Stores cache))
  | .writeBehindStored _ cache =>
    inferInstanceAs (Decidable (cache.writeBehindEnabled = some true → Stores cache))

/-- The rules for a discovery section. A finder that is not known needs nothing else. -/
def discoveryRules (d : DiscoveryConfig) : List Rule :=
  .finderKnown d ::
    if d.kind = "Vm" then [.addressed d]
    else if d.kind = "S3" then [.fieldFilled .s3 "bucketName" (d.s3.bind (·.bucketName))]
    else if d.kind = "Cloud" then
      [ .fieldFilled .cloud "identity" (d.cloud.bind (·.identity)),
        .fieldFilled .cloud "provider" (d.cloud.bind (·.provider)) ]
    else if d.kind = "GoogleStorage" then
      [ .fieldFilled .googleStorage "projectName" (d.googleStorage.bind (·.projectName)),
        .fieldFilled .googleStorage "bucketName" (d.googleStorage.bind (·.bucketName)),
        .fieldFilled .googleStorage "serviceAccountP12FilePath"
          (d.googleStorage.bind (·.serviceAccountP12FilePath)),
        .fieldFilled .googleStorage "serviceAccountId"
          (d.googleStorage.bind (·.serviceAccountId)) ]
    else []

/-- The rules for the cache at a position. -/
def cacheRules (index : Nat) (cache : CacheConfig) : List Rule :=
  [.swapBacked index cache, .storeUsed index cache, .storeGiven index cache,
    .writeBehindStored index cache]

/-- All rules for a cluster: the name, discovery, event groups, then cache by cache. -/
def rules (c : ClusterConfig) : List Rule :=
  [.named] ++ c.discovery.toList.flatMap discoveryRules ++ c.includeEventTypes.map .groupKnown ++
    c.caches.zipIdx.flatMap fun (cache, index) => cacheRules index cache

/-! ## Reports -/

/-- What is reported of rules: each one that is broken. -/
def reports (c : ClusterConfig) (rs : List Rule) : List Violation :=
  (rs.filter fun r => ¬ r.Holds c).map Rule.report

section

variable (c : ClusterConfig)

/-- Rules are reported in their order, so the reports of a joined list are joined as well. -/
theorem reports_append (front back : List Rule) :
    reports c (front ++ back) = reports c front ++ reports c back := by
  rw [reports, List.filter_append, List.map_append]
  rfl

/-- The reports of rules that are listed item by item are themselves listed item by item. -/
theorem reports_flatMap {α : Type} (f : α → List Rule) (items : List α) :
    reports c (items.flatMap f) = items.flatMap fun a => reports c (f a) := by
  induction items with
  | nil => rfl
  | cons a rest ih => rw [List.flatMap_cons, reports_append, ih, List.flatMap_cons]

/-- A check for a rule reports it where the rule is broken. -/
theorem violationIf_report {broken : Bool} (r : Rule) (check : broken = true ↔ ¬ r.Holds c) :
    violationIf broken r.report = reports c [r] := by
  cases broken with
  | false =>
    have holds : r.Holds c := not_not.mp (mt check.mpr Bool.false_ne_true)
    simp [violationIf, reports, holds]
  | true =>
    have broken : ¬ r.Holds c := check.mp rfl
    simp [violationIf, reports, broken]

theorem requiredText_report (kind : FinderKind) (field : String) (value : Option String) :
    requiredText kind field value = reports c [.fieldFilled kind field value] := by
  refine violationIf_report c (.fieldFilled kind field value) ?_
  rw [Rule.Holds, ← isBlankOrAbsent_eq_false, Bool.not_eq_false]

/-- A check for addresses looks for them in the section. -/
theorem addresses_report (d : DiscoveryConfig) :
    violationIf ((d.vm.map (·.addresses)).getD []).isEmpty .addressesMissing =
      reports c [.addressed d] := by
  refine violationIf_report c (.addressed d) ?_
  rw [Rule.Holds]
  cases d.vm <;> simp

/-- What is reported of a discovery section are its broken rules. -/
theorem discoveryViolations_eq (d : DiscoveryConfig) :
    discoveryViolations d = reports c (discoveryRules d) := by
  have names : FinderKind.all.map FinderKind.name = finderKinds := rfl
  rw [discoveryViolations, FinderKind.ofName]
  rcases find_cases names .discovery d.kind with ⟨k, hit, named, -⟩ | ⟨missing, fault⟩
  · have known : (Rule.finderKnown d).Holds c := by
      rw [Rule.Holds, ← named, ← names]
      exact List.mem_map_of_mem (List.mem_of_find?_eq_some hit)
    have rest : ∀ rs, reports c (.finderKnown d :: rs) = reports c rs := by
      intro rs
      rw [reports, List.filter_cons_of_neg (by simpa using known)]
      rfl
    rw [hit, discoveryRules, rest, ← named]
    cases k with
    | vm => exact addresses_report c d
    | s3 => exact requiredText_report c _ _ _
    | cloud => simp [FinderKind.name, requiredText_report c, ← reports_append]
    | googleStorage => simp [FinderKind.name, requiredText_report c, ← reports_append]
    | multicast | jdbc | sharedFs => rfl
  · have unknown : d.kind ∉ finderKinds := not_mem_of_kindFaults fault
    have broken : ¬ (Rule.finderKnown d).Holds c := unknown
    simp only [finderKinds, List.mem_cons, List.not_mem_nil, or_false, not_or] at unknown
    obtain ⟨-, vm, s3, cloud, googleStorage, -⟩ := unknown
    simp [missing, discoveryRules, vm, s3, cloud, googleStorage, reports, broken, Rule.report]

/-- The names of groups are checked by one rule each, in the order in which they are given. -/
theorem eventGroupViolations_eq (names : List String) :
    eventGroupViolations names = reports c (names.map .groupKnown) := by
  rw [eventGroupViolations, ← List.flatMap_pure_eq_map, reports_flatMap]
  refine List.flatMap_congr fun name _ => violationIf_report c (.groupKnown name) ?_
  rw [Rule.Holds]
  rcases eventsOf?_cases name with ⟨g, inside, rfl, events⟩ | ⟨unknown, none⟩
  · have isGroup : IsGroup g.name := List.mem_map_of_mem inside
    simp [events, isGroup]
  · simp [none, unknown]

/-- The rules for a cache report what the checker finds, in the same order and with the same label.
-/
theorem cacheViolations_eq (index : Nat) (cache : CacheConfig) :
    cacheViolations (hasSwapSpace c) index cache = reports c (cacheRules index cache) := by
  have swap : (cache.swapEnabled = some true && !hasSwapSpace c) = true ↔
      ¬ (Rule.swapBacked index cache).Holds c := by
    simp [Rule.Holds, ← hasSwapSpace_iff]
  have used : (hasStore cache && !isThrough cache) = true ↔
      ¬ (Rule.storeUsed index cache).Holds c := by
    simp [Rule.Holds, ← hasStore_iff, ← isThrough_iff]
  have given : (isThrough cache && !hasStore cache) = true ↔
      ¬ (Rule.storeGiven index cache).Holds c := by
    simp [Rule.Holds, ← hasStore_iff, ← isThrough_iff]
  have behind : (cache.writeBehindEnabled = some true && !hasStore cache) = true ↔
      ¬ (Rule.writeBehindStored index cache).Holds c := by
    simp [Rule.Holds, ← hasStore_iff]
  show _ = reports c ([.swapBacked index cache] ++ [.storeUsed index cache] ++
    [.storeGiven index cache] ++ [.writeBehindStored index cache])
  rw [reports_append, reports_append, reports_append, ← violationIf_report c _ swap,
    ← violationIf_report c _ used, ← violationIf_report c _ given, ← violationIf_report c _ behind]
  rfl

/-- The checker's recursion over caches is a map over the caches paired with their positions. -/
theorem cachesViolations_eq_flatMap (swapSpace : Bool) (index : Nat) (caches : List CacheConfig) :
    cachesViolations swapSpace index caches =
      (caches.zipIdx index).flatMap fun (cache, i) => cacheViolations swapSpace i cache := by
  induction caches generalizing index with
  | nil => rfl
  | cons cache rest ih => rw [cachesViolations, ih, List.zipIdx_cons, List.flatMap_cons]

/-- Each broken rule is reported once and in order, whatever else is broken. -/
theorem violations_eq : violations c = reports c (rules c) := by
  have name : violationIf (isBlankOrAbsent c.name) .nameMissing = reports c [.named] := by
    refine violationIf_report c .named ?_
    rw [Rule.Holds, ← isBlankOrAbsent_eq_false, Bool.not_eq_false]
  have caches : cachesViolations (hasSwapSpace c) 0 c.caches =
      reports c (c.caches.zipIdx.flatMap fun (cache, index) => cacheRules index cache) := by
    rw [cachesViolations_eq_flatMap, reports_flatMap]
    exact List.flatMap_congr fun p _ => cacheViolations_eq c p.2 p.1
  rw [violations, name, eventGroupViolations_eq c, caches, rules, reports_append, reports_append,
    reports_append]
  -- Without a discovery section there are no rules for one.
  cases c.discovery with
  | none => rfl
  | some d => simp only [discoveryViolations_eq c, Option.toList_some, List.flatMap_singleton]

end

/-! ## Keeping all rules -/

/-- A discovery section keeps its rules if it has what its finder needs. -/
theorem discoveryRules_hold_iff (c : ClusterConfig) (d : DiscoveryConfig) :
    (∀ r ∈ discoveryRules d, r.Holds c) ↔ Discovers d := by
  simp only [discoveryRules, List.forall_mem_cons]
  constructor
  · rintro ⟨known, needs⟩
    refine ⟨known, fun vm => ?_, fun s3 => ?_, fun cloud => ?_, fun googleStorage => ?_⟩
    · simpa [vm, Rule.Holds] using needs
    · simpa [s3, Rule.Holds, filled_bind] using needs
    · simpa [cloud, Rule.Holds, filled_bind, given_and] using needs
    · simpa [googleStorage, Rule.Holds, filled_bind, given_and] using needs
  · rintro ⟨known, vm, s3, cloud, googleStorage⟩
    refine ⟨known, ?_⟩
    split_ifs with isVm isS3 isCloud isGoogleStorage
    · simpa [Rule.Holds] using vm isVm
    · simpa [Rule.Holds, filled_bind] using s3 isS3
    · simpa [Rule.Holds, filled_bind, given_and] using cloud isCloud
    · simpa [Rule.Holds, filled_bind, given_and] using googleStorage isGoogleStorage
    · exact List.forall_mem_nil _

/-- The rules for a cache together: swapping needs a swap space, a store goes with reading or
writing through, and writing behind needs a store. -/
theorem cacheRules_hold_iff (c : ClusterConfig) (index : Nat) (cache : CacheConfig) :
    (∀ r ∈ cacheRules index cache, r.Holds c) ↔
      (cache.swapEnabled = some true → Swaps c) ∧ (Stores cache ↔ GoesThrough cache) ∧
        (cache.writeBehindEnabled = some true → Stores cache) := by
  simp only [cacheRules, List.forall_mem_cons, List.not_mem_nil, false_imp_iff, implies_true,
    and_true, Rule.Holds, iff_def, and_assoc]

/-- The listed rules all hold exactly if the cluster is consistent, which is said without the list.
-/
theorem rules_hold_iff (c : ClusterConfig) : (∀ r ∈ rules c, r.Holds c) ↔ Consistent c := by
  have caches : (∀ r ∈ c.caches.zipIdx.flatMap fun (cache, index) => cacheRules index cache,
      r.Holds c) ↔ ∀ cache ∈ c.caches, (cache.swapEnabled = some true → Swaps c) ∧
        (Stores cache ↔ GoesThrough cache) ∧
        (cache.writeBehindEnabled = some true → Stores cache) := by
    rw [← List.zipIdx_map_fst 0 c.caches, List.forall_mem_map, List.zipIdx_map_fst,
      List.forall_mem_flatMap]
    exact forall₂_congr fun p _ => cacheRules_hold_iff c p.2 p.1
  rw [rules, List.forall_mem_append, List.forall_mem_append, List.forall_mem_append, caches,
    List.forall_mem_singleton, List.forall_mem_flatMap, List.forall_mem_map]
  simp only [discoveryRules_hold_iff, Option.mem_toList]
  constructor
  · rintro ⟨⟨⟨named, discovers⟩, grouped⟩, cached⟩
    exact ⟨named, discovers, grouped, fun cache mem => (cached cache mem).1,
      fun cache mem => (cached cache mem).2.1, fun cache mem => (cached cache mem).2.2⟩
  · rintro ⟨named, discovers, grouped, swaps, stores, writesBehind⟩
    exact ⟨⟨⟨named, discovers⟩, grouped⟩, fun cache mem =>
      ⟨swaps cache mem, stores cache mem, writesBehind cache mem⟩⟩

theorem violations_eq_nil_iff (c : ClusterConfig) : violations c = [] ↔ Consistent c := by
  rw [violations_eq, reports, List.map_eq_nil_iff, List.filter_eq_nil_iff, ← rules_hold_iff]
  simp

/-! ## Caches -/

/-- The cache that a violation is about. -/
def Violation.cache? : Violation → Option CacheLabel
  | .swapSpaceMissing cache | .storeUnused cache | .throughWithoutStore cache
  | .writeBehindWithoutStore cache => some cache
  | .nameMissing | .discoveryFailure _ | .addressesMissing | .discoveryFieldMissing ..
  | .unknownEventGroup _ => none

/-- The label of the cache once there are more caches ahead of it. -/
def CacheLabel.shift (count : Nat) (l : CacheLabel) : CacheLabel :=
  { l with index := l.index + count }

def Violation.shift (count : Nat) : Violation → Violation
  | .swapSpaceMissing cache => .swapSpaceMissing (cache.shift count)
  | .storeUnused cache => .storeUnused (cache.shift count)
  | .throughWithoutStore cache => .throughWithoutStore (cache.shift count)
  | .writeBehindWithoutStore cache => .writeBehindWithoutStore (cache.shift count)
  | v => v

/-- What is reported of caches. -/
def cacheReports (c : ClusterConfig) : List Violation :=
  (violations c).filter fun v => v.cache?.isSome

/-- What is reported of the cache at a position. -/
def reportsOn (c : ClusterConfig) (index : Nat) : List Violation :=
  (violations c).filter fun v => v.cache?.map CacheLabel.index = some index

section

variable (swapSpace : Bool)

/-- What is reported of a cache names its position and the cache. -/
theorem cache?_of_mem {index : Nat} {cache : CacheConfig} :
    ∀ v ∈ cacheViolations swapSpace index cache, v.cache? = some ⟨index, cache.name⟩ := by
  intro v mem
  simp only [cacheViolations, violationIf, List.mem_append, List.mem_ite_nil_right,
    List.mem_singleton] at mem
  rcases mem with ((⟨-, rfl⟩ | ⟨-, rfl⟩) | ⟨-, rfl⟩) | ⟨-, rfl⟩ <;> rfl

/-- What is reported of caches names a cache, at the position where the list starts or behind it. -/
theorem index_of_mem {start : Nat} {caches : List CacheConfig} :
    ∀ v ∈ cachesViolations swapSpace start caches,
      ∃ label, v.cache? = some label ∧ start ≤ label.index := by
  induction caches generalizing start with
  | nil => exact List.forall_mem_nil _
  | cons cache rest ih =>
    rw [cachesViolations, List.forall_mem_append]
    refine ⟨fun v mem => ⟨_, cache?_of_mem swapSpace v mem, le_rfl⟩, fun v mem => ?_⟩
    obtain ⟨label, about, behind⟩ := ih v mem
    exact ⟨label, about, Nat.le_of_succ_le behind⟩

/-- Caches behind others are checked at positions that are moved by the number of those in front. -/
theorem cachesViolations_append (start : Nat) (front back : List CacheConfig) :
    cachesViolations swapSpace start (front ++ back) =
      cachesViolations swapSpace start front ++
        cachesViolations swapSpace (start + front.length) back := by
  simp only [cachesViolations_eq_flatMap, List.zipIdx_append, List.flatMap_append]

/-- The position of a cache enters its reports through the label alone, and moves with it. -/
theorem cacheViolations_shift (index count : Nat) (cache : CacheConfig) :
    cacheViolations swapSpace (index + count) cache =
      (cacheViolations swapSpace index cache).map (Violation.shift count) := by
  have each : ∀ (broken : Bool) (v : Violation),
      (violationIf broken v).map (Violation.shift count) =
        violationIf broken (v.shift count) := by
    intro broken v
    cases broken <;> rfl
  simp only [cacheViolations, List.map_append, each]
  rfl

/-- The same for a list of caches, by induction on the list. -/
theorem cachesViolations_shift (start count : Nat) (caches : List CacheConfig) :
    cachesViolations swapSpace (start + count) caches =
      (cachesViolations swapSpace start caches).map (Violation.shift count) := by
  induction caches generalizing start with
  | nil => rfl
  | cons cache rest ih =>
    rw [cachesViolations, cachesViolations, List.map_append, cacheViolations_shift,
      Nat.add_right_comm, ih]

/-- Among what is reported of caches, that of one cache is all that names its position. -/
theorem cachesViolations_at (start offset : Nat) (caches : List CacheConfig) :
    (cachesViolations swapSpace start caches).filter
        (fun v => v.cache?.map CacheLabel.index = some (start + offset)) =
      caches[offset]?.toList.flatMap (cacheViolations swapSpace (start + offset)) := by
  induction caches generalizing start offset with
  | nil => simp [cachesViolations]
  | cons cache rest ih =>
    rw [cachesViolations, List.filter_append]
    cases offset with
    | zero =>
      have here : (cacheViolations swapSpace start cache).filter
          (fun v => v.cache?.map CacheLabel.index = some (start + 0)) =
            cacheViolations swapSpace start cache :=
        List.filter_eq_self.mpr fun v mem => by simp [cache?_of_mem swapSpace v mem]
      have behind : (cachesViolations swapSpace (start + 1) rest).filter
          (fun v => v.cache?.map CacheLabel.index = some (start + 0)) = [] := by
        refine List.filter_eq_nil_iff.mpr fun v mem => ?_
        obtain ⟨label, about, later⟩ := index_of_mem swapSpace v mem
        have other : label.index ≠ start := by omega
        simp [about, other]
      rw [here, behind]
      simp
    | succ offset =>
      have here : (cacheViolations swapSpace start cache).filter
          (fun v => v.cache?.map CacheLabel.index = some (start + (offset + 1))) = [] :=
        List.filter_eq_nil_iff.mpr fun v mem => by simp [cache?_of_mem swapSpace v mem]
      have next : start + (offset + 1) = start + 1 + offset := by omega
      rw [here, List.nil_append, next, ih, List.getElem?_cons_succ]

end

/-- Ahead of what is reported of caches, nothing is about a cache. -/
theorem violations_split (c : ClusterConfig) :
    ∃ front, violations c = front ++ cachesViolations (hasSwapSpace c) 0 c.caches ∧
      ∀ v ∈ front, v.cache? = none := by
  refine ⟨_, rfl, ?_⟩
  rw [List.forall_mem_append, List.forall_mem_append]
  refine ⟨⟨?_, ?_⟩, ?_⟩
  · intro v mem
    rw [eq_of_mem_violationIf mem]
    rfl
  · intro v mem
    split at mem
    · rcases mem_discoveryViolations mem with ⟨e, rfl⟩ | rfl | ⟨kind, field, rfl⟩ <;> rfl
    · cases mem
  · intro v mem
    obtain ⟨name, -, reported⟩ := List.mem_flatMap.mp mem
    rw [eq_of_mem_violationIf reported]
    rfl

/-- What is reported of caches is what the checker finds from the first cache on. -/
theorem cacheReports_eq (c : ClusterConfig) :
    cacheReports c = cachesViolations (hasSwapSpace c) 0 c.caches := by
  obtain ⟨front, split, none⟩ := violations_split c
  have ahead : front.filter (fun v => v.cache?.isSome) = [] :=
    List.filter_eq_nil_iff.mpr fun v mem => by simp [none v mem]
  have kept : ∀ v ∈ cachesViolations (hasSwapSpace c) 0 c.caches, v.cache?.isSome = true := by
    intro v mem
    obtain ⟨label, about, -⟩ := index_of_mem _ v mem
    rw [about]
    rfl
  rw [cacheReports, split, List.filter_append, ahead, List.nil_append, List.filter_eq_self.mpr kept]

/-- What is reported of one position is found by checking the cache there alone, if there is one. -/
theorem reportsOn_eq (c : ClusterConfig) (index : Nat) :
    reportsOn c index =
      c.caches[index]?.toList.flatMap (cacheViolations (hasSwapSpace c) index) := by
  obtain ⟨front, split, none⟩ := violations_split c
  have ahead : front.filter (fun v => v.cache?.map CacheLabel.index = some index) = [] :=
    List.filter_eq_nil_iff.mpr fun v mem => by simp [none v mem]
  have here := cachesViolations_at (hasSwapSpace c) 0 index c.caches
  rw [Nat.zero_add] at here
  rw [reportsOn, split, List.filter_append, ahead, List.nil_append, here]

/-- Behind other caches, what is reported of caches is the same but for their positions. -/
theorem cacheReports_append (c : ClusterConfig) (front back : List CacheConfig) :
    cacheReports { c with caches := front ++ back } =
      cacheReports { c with caches := front } ++
        (cacheReports { c with caches := back }).map (Violation.shift front.length) := by
  rw [cacheReports_eq, cacheReports_eq, cacheReports_eq, cachesViolations_append,
    cachesViolations_shift]
  rfl

end GridBeans
