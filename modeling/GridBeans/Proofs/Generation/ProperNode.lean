import GridBeans.Generation.Document
import GridBeans.Proofs.Generation.ProperCache

/-!
# Proper nodes

The bean of a node is a proper script, and so are the beans that a document puts ahead of it for the
data sources that the caches of the node register.
-/
namespace GridBeans.Generation

open GridBeans.Xml GridBeans.Markup GridBeans.Config GridBeans.Catalogue

variable {P : Char → Prop} {c : ClusterConfig}

/-! ## Discovery -/

theorem finderClass_plain (kind : FinderKind) : Plain kind.className := by
  cases kind <;> exact plain_literal rfl

/-- The texts of the chosen settings. -/
def IpFinder.Spelled (P : Char → Prop) : IpFinder → Prop
  | .multicast settings => Config.Spelled P settings
  | .vm settings => Config.Spelled P settings
  | .s3 settings => Config.Spelled P settings
  | .cloud settings => Config.Spelled P settings
  | .googleStorage settings => Config.Spelled P settings
  | .jdbc _ => True
  | .sharedFs settings => Config.Spelled P settings

theorem map_ok {α β : Type} {f : α → β} {x : Except Failure α} {b : β} (found : f <$> x = .ok b) :
    ∃ a, x = .ok a ∧ f a = b := by
  cases x with
  | error e => cases found
  | ok a => exact ⟨a, rfl, Except.ok.inj found⟩

/-- A chosen finder has no texts but those of its section. -/
theorem ipFinder_spelled {d : DiscoveryConfig} {finder : IpFinder}
    (chosen : IpFinder.ofConfig d = .ok finder) (spelled : Spelled P d) : finder.Spelled P := by
  obtain ⟨-, multicast, vm, s3, cloud, googleStorage, sharedFs⟩ :=
    (spelled_discoveryConfig d).mp spelled
  rw [IpFinder.ofConfig] at chosen
  cases named : FinderKind.ofName d.kind with
  | error e =>
    rw [named] at chosen
    cases chosen
  | ok kind =>
    rw [named] at chosen
    cases kind with
    | multicast =>
      obtain ⟨settings, given, rfl⟩ := map_ok chosen
      exact spelled_option.mp multicast settings (requiredSection_ok given)
    | vm =>
      obtain ⟨settings, given, rfl⟩ := map_ok chosen
      exact spelled_option.mp vm settings (requiredSection_ok given)
    | s3 =>
      cases chosen
      exact s3
    | cloud =>
      obtain ⟨settings, given, rfl⟩ := map_ok chosen
      exact spelled_option.mp cloud settings (requiredSection_ok given)
    | googleStorage =>
      obtain ⟨settings, given, rfl⟩ := map_ok chosen
      exact spelled_option.mp googleStorage settings (requiredSection_ok given)
    | jdbc =>
      obtain ⟨settings, given, rfl⟩ := map_ok chosen
      trivial
    | sharedFs =>
      obtain ⟨settings, given, rfl⟩ := map_ok chosen
      exact spelled_option.mp sharedFs settings (requiredSection_ok given)

theorem finderBean_proper {finder : IpFinder} (spelled : finder.Spelled P) :
    finder.bean.Proper P := by
  have empty : ∀ kind : FinderKind, (Script.line (beanTag (.written kind.className))).Proper P :=
    fun kind => .line (beanTag_proper (finderClass_plain kind)) (.emptyTag _ _)
  cases finder with
  | multicast m =>
    obtain ⟨multicastGroup, localAddress⟩ := (spelled_multicastIpFinder m).mp spelled
    exact beanBlock_proper (finderClass_plain .multicast) <|
      .next (spelledProperty_proper (plain_literal rfl) multicastGroup) <|
      .next (integerProperty_proper m.multicastPort (plain_literal rfl)) <|
      .next (integerProperty_proper m.responseWaitTime (plain_literal rfl)) <|
      .next (integerProperty_proper m.addressRequestAttempts (plain_literal rfl)) <|
      spelledProperty_proper (plain_literal rfl) localAddress
  | vm v =>
    simp only [IpFinder.bean]
    split
    · exact empty .vm
    · exact beanBlock_proper (finderClass_plain .vm)
        (listProperty_proper (plain_literal rfl) structural_list
          ((spelled_texts v.addresses).mp spelled))
  | s3 s =>
    refine beanBlock_proper (finderClass_plain .s3) ?_
    split
    · rename_i bucket found
      have given : Spelled P (s.bind (·.bucketName)) := by
        cases s with
        | none => exact spelled_none
        | some settings => exact (spelled_some settings).mp spelled
      have admitted : (AttributeValue.plain bucket).Proper P := over_nonEmpty found given
      exact .line (propertyTag_proper (plain_literal rfl) admitted) (.emptyTag _ _)
    · exact .pure ()
  | cloud s =>
    obtain ⟨credential, credentialPath, identity, provider, regions, zones⟩ :=
      (spelled_cloudIpFinder s).mp spelled
    exact beanBlock_proper (finderClass_plain .cloud) <|
      .next (spelledProperty_proper (plain_literal rfl) credential) <|
      .next (spelledProperty_proper (plain_literal rfl) credentialPath) <|
      .next (spelledProperty_proper (plain_literal rfl) identity) <|
      .next (spelledProperty_proper (plain_literal rfl) provider) <|
      .next (listProperty_proper (plain_literal rfl) structural_list
        ((spelled_texts s.regions).mp regions)) <|
      listProperty_proper (plain_literal rfl) structural_list ((spelled_texts s.zones).mp zones)
  | googleStorage g =>
    obtain ⟨projectName, bucketName, filePath, accountId⟩ :=
      (spelled_googleStorageIpFinder g).mp spelled
    exact beanBlock_proper (finderClass_plain .googleStorage) <|
      .next (spelledProperty_proper (plain_literal rfl) projectName) <|
      .next (spelledProperty_proper (plain_literal rfl) bucketName) <|
      .next (spelledProperty_proper (plain_literal rfl) filePath) <|
      spelledProperty_proper (plain_literal rfl) accountId
  | jdbc j =>
    exact beanBlock_proper (finderClass_plain .jdbc)
      (switchProperty_proper (some (j.initSchema.getD false)) (plain_literal rfl))
  | sharedFs f =>
    simp only [IpFinder.bean]
    split
    · rename_i path found
      have admitted : Over P path := over_nonEmpty found spelled
      exact beanBlock_proper (finderClass_plain .sharedFs)
        (property_proper (plain_literal rfl) fun text same => Option.some.inj same ▸ admitted)
    · exact empty .sharedFs

theorem discovery_proper {d : DiscoveryConfig} (spelled : Spelled P d) :
    (discovery d).Proper P :=
  .bind (.ofExcept _) fun _ chosen => .next .sectionStart <|
    propertyBlock_proper (plain_literal rfl) <|
    beanBlock_proper (plain_literal rfl) <|
    propertyBlock_proper (plain_literal rfl) <|
    finderBean_proper (ipFinder_spelled chosen spelled)

/-! ## Event types -/

/-- A name that can also stand in a comment. -/
structure ConstantName (name : String) : Prop where
  plain : Plain name
  noHyphen : '-' ∉ name.toList

theorem constantName_literal {cs : List Char}
    (each : (cs.all fun c => isPlainChar c && c != '-') = true) :
    ConstantName (String.ofList cs) := by
  simp only [List.all_eq_true, Bool.and_eq_true] at each
  refine ⟨plain_ofList.mpr fun c mem => (each c mem).1, fun mem => ?_⟩
  rw [String.toList_ofList] at mem
  exact absurd (each '-' mem).2 (by decide)

/-- The group and its events have names that are written as they are. -/
structure EventGroup.Named (g : EventGroup) : Prop where
  name : ConstantName g.name
  events : ∀ event ∈ g.events, ConstantName event

/-- The names of all groups and events are fit for constants and for comments. -/
theorem eventGroups_named : ∀ g ∈ eventGroups, EventGroup.Named g := by
  have names : ∀ g ∈ eventGroups, ConstantName g.name := by
    simp only [eventGroups, List.forall_mem_cons]
    repeat' apply And.intro
    all_goals first | exact constantName_literal rfl | exact List.forall_mem_nil _
  have events : ∀ g ∈ eventGroups, ∀ event ∈ g.events, ConstantName event := by
    simp only [eventGroups, List.forall_mem_cons]
    repeat' apply And.intro
    all_goals first | exact constantName_literal rfl | exact List.forall_mem_nil _
  exact fun g mem => ⟨names g mem, events g mem⟩

theorem groupNamed_named {name : String} {g : EventGroup} (found : groupNamed name = .ok g) :
    EventGroup.Named g := by
  unfold groupNamed at found
  split at found
  · rename_i events known
    obtain ⟨group, hit, rfl⟩ := Option.map_eq_some_iff.mp known
    have named := eventGroups_named group (List.mem_of_find?_eq_some hit)
    have sameName : group.name = name := by simpa using List.find?_some hit
    cases found
    exact ⟨sameName ▸ named.name, named.events⟩
  · cases found

/-- Each result of a list that is computed item by item comes from an item. -/
theorem forall_of_mapM {α β : Type} {f : α → Except Failure β} {Q : β → Prop}
    (each : ∀ a b, f a = .ok b → Q b) {items : List α} {results : List β}
    (computed : items.mapM f = .ok results) : ∀ b ∈ results, Q b := by
  induction items generalizing results with
  | nil =>
    cases computed
    exact List.forall_mem_nil _
  | cons a rest ih =>
    rw [List.mapM_cons] at computed
    cases first : f a with
    | error e =>
      rw [first] at computed
      cases computed
    | ok b =>
      cases others : rest.mapM f with
      | error e =>
        rw [first, others] at computed
        cases computed
      | ok bs =>
        rw [first, others] at computed
        cases computed
        exact List.forall_mem_cons.mpr ⟨each a b first, ih others⟩

section

variable [AdmitsPlain P]

theorem eventConstant_proper {name : String} (named : ConstantName name) :
    (Script.line (eventConstant name)).Proper P := by
  have package : Plain (eventTypeClass ++ ".") :=
    plain_append.mpr ⟨plain_literal rfl, plain_literal rfl⟩
  have whole : Plain (eventTypeClass ++ "." ++ name) := plain_append.mpr ⟨package, named.plain⟩
  exact .line (constantTag_proper whole.over) (.emptyTag _ _)

theorem groupEvents_proper {g : EventGroup} (named : EventGroup.Named g) :
    (groupEvents g).Proper P := by
  have heading : ConstantName "EventType." := constantName_literal rfl
  have comment : (Piece.comment ("EventType." ++ g.name)).Proper P := by
    refine ⟨plain_append.mpr ⟨heading.plain, named.name.plain⟩, ?_⟩
    rw [String.toList_append, List.mem_append]
    exact not_or.mpr ⟨heading.noHyphen, named.name.noHyphen⟩
  exact .next (.line comment (.comment _)) <|
    .forEach fun event mem => eventConstant_proper (named.events event mem)

/-- Events are proper for any names, since only names of the catalogue are ever written. -/
theorem eventTypes_proper (names : List String) : (eventTypes names).Proper P := by
  rw [eventTypes]
  split
  · exact .pure ()
  · refine .bind (.ofExcept _) fun groups found => ?_
    have named : ∀ g ∈ groups, EventGroup.Named g :=
      forall_of_mapM (fun _ _ => groupNamed_named) found
    refine .next .sectionStart (.next (propertyBlock_proper (plain_literal rfl) ?_) .requestBlank)
    split
    · rename_i g
      exact eventConstant_proper (named g List.mem_cons_self).name
    · exact containerBlock_proper structural_array <|
        .forEachSpaced fun g mem => groupEvents_proper (named g mem)

end

/-! ## Groups of properties -/

theorem nodeNetwork_proper : (nodeNetwork c).Proper P :=
  .next (integerProperty_proper c.networkTimeout (plain_literal rfl)) <|
  .next (integerProperty_proper c.networkSendRetryDelay (plain_literal rfl)) <|
  .next (integerProperty_proper c.networkSendRetryCount (plain_literal rfl)) <|
  .next (integerProperty_proper c.segmentCheckFrequency (plain_literal rfl)) <|
  .next (switchProperty_proper c.waitForSegmentOnStart (plain_literal rfl)) <|
  integerProperty_proper c.discoveryStartupDelay (plain_literal rfl)

theorem nodeMarshalling_proper : (nodeMarshalling c).Proper P :=
  .next (switchProperty_proper c.marshalLocalJobs (plain_literal rfl)) <|
  .next (integerProperty_proper c.marshallerCacheKeepAliveTime (plain_literal rfl)) <|
  integerProperty_proper c.marshallerCacheThreadPoolSize (plain_literal rfl)

theorem nodeMetrics_proper : (nodeMetrics c).Proper P :=
  .next (integerProperty_proper c.metricsExpireTime (plain_literal rfl)) <|
  .next (integerProperty_proper c.metricsHistorySize (plain_literal rfl)) <|
  .next (integerProperty_proper c.metricsLogFrequency (plain_literal rfl)) <|
  integerProperty_proper c.metricsUpdateFrequency (plain_literal rfl)

theorem nodeClassLoading_proper (excluded : Spelled P c.peerClassLoadingLocalClassPathExclude) :
    (nodeClassLoading c).Proper P :=
  .next (switchProperty_proper c.peerClassLoadingEnabled (plain_literal rfl)) <|
  .next (listProperty_proper (plain_literal rfl) structural_list
    ((spelled_texts c.peerClassLoadingLocalClassPathExclude).mp excluded)) <|
  .next (integerProperty_proper c.peerClassLoadingMissedResourcesCacheSize (plain_literal rfl)) <|
  integerProperty_proper c.peerClassLoadingThreadPoolSize (plain_literal rfl)

theorem nodeTime_proper : (nodeTime c).Proper P :=
  .next (integerProperty_proper c.clockSyncSamples (plain_literal rfl)) <|
  .next (integerProperty_proper c.clockSyncFrequency (plain_literal rfl)) <|
  .next (integerProperty_proper c.timeServerPortBase (plain_literal rfl)) <|
  integerProperty_proper c.timeServerPortRange (plain_literal rfl)

theorem nodeThreadPools_proper : (nodeThreadPools c).Proper P :=
  .next (integerProperty_proper c.publicThreadPoolSize (plain_literal rfl)) <|
  .next (integerProperty_proper c.systemThreadPoolSize (plain_literal rfl)) <|
  .next (integerProperty_proper c.managementThreadPoolSize (plain_literal rfl)) <|
  integerProperty_proper c.igfsThreadPoolSize (plain_literal rfl)

theorem clientMode_proper (client : Bool) : (clientMode client).Proper P :=
  .onlyIf fun _ => .next (switchProperty_proper (some true) (plain_literal rfl)) .requestBlank

theorem chosenPart_proper {part : Script Bool} (proper : part.Proper P) :
    (chosenPart part).Proper P :=
  .bind proper fun _ _ => .onlyIf fun _ => .requestBlank

/-! ## The node -/

variable [AdmitsPlain P]

theorem nodeCaches_proper {caches : List CacheConfig} (spelled : Spelled P caches) :
    (nodeCaches caches).Proper P := by
  rw [nodeCaches]
  split
  · exact .pure ()
  · exact .next .sectionStart <|
      propertyBlock_proper (plain_literal rfl) <|
      containerBlock_proper structural_list <|
      .forEachSpaced fun cache mem => cacheBean_proper ((spelled_list caches).mp spelled cache mem)

/-- All groups of a node are proper, each from the texts that it writes. -/
theorem nodeProperties_proper (client : Bool) (spelled : Spelled P c) :
    (nodeProperties c client).Proper P := by
  obtain ⟨-, discovery, atomic, deploymentMode, -, marshaller, excluded, swapSpace, transactions,
    caches⟩ := (spelled_clusterConfig c).mp spelled
  exact .next (clientMode_proper client) <|
    .next (.forSome fun d given =>
      .next (discovery_proper (spelled_option.mp discovery d given)) .requestBlank) <|
    .next (settingsBean_proper false (plain_literal rfl) atomicConfiguration_plain rfl atomic) <|
    .next .requestBlank <|
    .next nodeNetwork_proper <|
    .next .requestBlank <|
    .next (spelledProperty_proper (plain_literal rfl) deploymentMode) <|
    .next .requestBlank <|
    .next (eventTypes_proper c.includeEventTypes) <|
    .next (chosenPart_proper (marshaller_proper marshaller)) <|
    .next nodeMarshalling_proper <|
    .next .requestBlank <|
    .next nodeMetrics_proper <|
    .next .requestBlank <|
    .next (nodeClassLoading_proper excluded) <|
    .next .requestBlank <|
    .next (chosenPart_proper (swapSpace_proper swapSpace)) <|
    .next nodeTime_proper <|
    .next .requestBlank <|
    .next nodeThreadPools_proper <|
    .next .requestBlank <|
    .next (settingsBean_proper true (plain_literal rfl) transactionConfiguration_plain rfl
      transactions) <|
    .next .requestBlank <|
    nodeCaches_proper caches

/-- The beans of a node are a proper script over the characters of the texts they are made of. -/
theorem nodeBeans_proper {clientNear : Option NearCacheConfig} (spelled : Spelled P c)
    (near : Spelled P clientNear) : (nodeBeans c clientNear).Proper P := by
  have nearBean : (clientNearBean clientNear).Proper P := by
    refine .forSome fun n given => .next (nearCacheBean_proper ?_ ?_) .blank
    · intro text same
      cases same
      exact plain_literal rfl
    · exact (spelled_some n).mpr (spelled_option.mp near n given)
  exact .next nearBean (beanBlock_proper (plain_literal rfl) (nodeProperties_proper _ spelled))

/-! ## The beans ahead of the node -/

theorem dataSourceBean_proper {s : DataSource} (proper : s.Proper P) :
    (dataSourceBean s).Proper P := by
  have attributes : ProperAttributes P [attr "id" s.beanId, writtenAttr "class" s.className] :=
    .cons (by decide) proper.beanId (by simp [writtenAttr]) (.one (by decide) proper.className)
  have credential : ∀ key, Plain key → Over P (placeholder s.beanId key) := by
    intro key plain
    have opening : Plain "$\x7b" := plain_literal rfl
    have middle : Plain ".jdbc." := plain_literal rfl
    have closing : Plain "\x7d" := plain_literal rfl
    unfold placeholder
    simp only [over_append]
    exact ⟨⟨⟨⟨opening.over, proper.beanId⟩, middle.over⟩, plain.over⟩, closing.over⟩
  have property : ∀ name key, Plain name → Plain key →
      (property name (some (placeholder s.beanId key))).Proper P := by
    intro name key plainName plainKey
    exact property_proper plainName fun text same => Option.some.inj same ▸ credential key plainKey
  exact .next (.block ⟨structural_bean.named, structural_bean.other, attributes⟩ <|
      .next (property _ _ (plain_literal rfl) (plain_literal rfl)) <|
      .next (property _ _ (plain_literal rfl) (plain_literal rfl)) <|
      property _ _ (plain_literal rfl) (plain_literal rfl)) .blank

/-- The preamble is proper: the bean ids and the place of the properties file are escaped. -/
theorem preamble_proper {options : DocumentOptions} {sources : List DataSource}
    (location : Over P options.propertiesLocation) (proper : ∀ s ∈ sources, s.Proper P) :
    (preamble options sources).Proper P := by
  have attributes : ProperAttributes P
      [writtenAttr "id" "placeholderConfig", writtenAttr "class" placeholderClass] :=
    .cons (by decide) (plain_literal rfl) (by simp [writtenAttr])
      (.one (by decide) (plain_literal rfl))
  have locationProperty : (property "location" (some options.propertiesLocation)).Proper P :=
    property_proper (plain_literal rfl) fun text same => Option.some.inj same ▸ location
  have comment : ∀ cs : List Char, (cs.all fun c => isPlainChar c && c != '-') = true →
      (Script.line (.comment (String.ofList cs))).Proper P := by
    intro cs each
    have named := constantName_literal each
    exact .line ⟨named.plain, named.noHyphen⟩ (.comment _)
  rw [preamble]
  split
  · exact .pure ()
  · exact .next (comment _ rfl) <|
      .next (.block ⟨structural_bean.named, structural_bean.other, attributes⟩ locationProperty) <|
      .next .blank <|
      .next (comment _ rfl) <|
      .forEach fun s mem => dataSourceBean_proper (proper s mem)

end GridBeans.Generation
