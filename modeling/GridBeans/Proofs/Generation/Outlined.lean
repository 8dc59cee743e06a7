import GridBeans.Proofs.Generation.Laying
import GridBeans.Proofs.Generation.Outline

/-!
# Scripts lay their outlines

Every script of a part of a document, if it succeeds, writes the outline of that part, whatever the
sheet it is run on. Properties are sections, beans are blocks of their own, and the properties of a
cache and of a node are groups of sections.
-/
namespace GridBeans.Generation

open GridBeans.Markup GridBeans.Config GridBeans.Catalogue GridBeans.Json
open Script

/-! ## Elements -/

theorem elementLines_ne_nil (element : String) (attributes : List Attribute)
    (inside : List Line) : elementLines element attributes inside ≠ [] :=
  List.cons_ne_nil _ _

section

variable {body : Script Unit} {lines : List Line}

theorem propertyBlock_stands (name : String) (fills : body.Fills lines) :
    (propertyBlock name body).Stands (propertyAround name lines) :=
  fills.block "property" _

theorem beanBlock_stands (className : String) (fills : body.Fills lines) :
    (beanBlock className body).Stands (beanAround className lines) :=
  fills.block "bean" _

/-- A property that starts a section. -/
theorem sectionBlock_opens (name : String) (fills : body.Fills lines) :
    (sectionStart >>= fun _ => propertyBlock name body).Opens (propertyAround name lines) :=
  .block (propertyBlock_stands name fills) (elementLines_ne_nil _ _ _)

/-- A container in a property, if there is anything in it. -/
theorem container_fills (container : String) (fills : body.Fills lines) :
    (Script.block container [] body).Fills (elementLines container [] lines) :=
  (fills.block container []).writes.fills

end

/-! ## Properties -/

/-- A property with a value opens a section; without one it writes nothing and leaves the cursor. -/
theorem property_opens {α : Type} [PropertyValue α] (name : String) (value : Option α) :
    (property name value).Opens (propertyLines name value) := by
  cases value with
  | none => exact .nothing ()
  | some a => exact .line (propertyTag name (PropertyValue.attributeValue a))

theorem classProperty_opens (name : String) (className : Option String) :
    (classProperty name className).Opens (classLines name className) :=
  property_opens name _

theorem rowsProperty_opens {α : Type} (name container : String) (items : List α)
    (row : α → Piece) :
    (rowsProperty name container items row).Opens
      (containerLines name container (pieceLines (items.map row))) := by
  cases items with
  | nil => exact .nothing ()
  | cons a rest =>
    exact sectionBlock_opens name (container_fills container (Writes.forEach_line _ row).fills)

theorem listProperty_opens (name container : String) (items : List String) :
    (listProperty name container items).Opens (listLines name container items) :=
  rowsProperty_opens name container items valueLeaf

theorem containerProperty_joins {α : Type} (name container : String) (items : List α)
    {each : α → Script Unit} {lines : α → List Line} (stands : ∀ a, (each a).Stands (lines a))
    (filled : ∀ a, lines a ≠ []) :
    (containerProperty name container items each).Joins
      (containerLines name container (items.flatMap lines)) := by
  cases items with
  | nil => exact .nothing ()
  | cons a rest =>
    have inside : (a :: rest).flatMap lines ≠ [] := by
      simp [filled a]
    have blocks : (Script.forEach (a :: rest) each).Writes ((a :: rest).flatMap lines) :=
      .forEach fun a => (stands a).writes
    rw [containerLines, if_neg inside]
    exact (propertyBlock_stands name (container_fills container blocks.fills)).joins
      (elementLines_ne_nil _ _ _)

/-! ## Beans of a shape -/

theorem writeValue_joins (f : FieldShape) (v : Value) :
    (f.writeValue v).Joins (f.valueLines v) := by
  unfold FieldShape.writeValue FieldShape.valueLines
  cases f.kind with
  | scalar => exact (property_opens f.propertyName (some v)).joins
  | list => exact (listProperty_opens f.propertyName "list" (itemTexts v)).joins
  | classNameRef =>
    cases v with
    | string name =>
      simp only
      split
      · exact .nothing ()
      · exact (propertyBlock_stands f.propertyName (Writes.line _).fills).joins
          (elementLines_ne_nil _ _ _)
    | null | bool | number | array | object => exact .nothing ()
  | propertyBag => exact (rowsProperty_opens f.propertyName "props" (bagEntries v) bagLeaf).joins

theorem write_joins (f : FieldShape) (members : List (String × Value)) :
    (f.write members).Joins (f.lines members) := by
  unfold FieldShape.write FieldShape.lines
  split
  · cases member? f.name members with
    | none => exact .nothing ()
    | some v => simpa using writeValue_joins f v
  · exact .nothing ()

/-- The bean of a shape opens a section with the lines of the shape, or writes nothing. -/
theorem shapedBean_opens (name : String) (shape : BeanShape) (members : List (String × Value))
    (force : Bool) :
    (shapedBean name shape members force).Opens (shapedLines name shape members force) := by
  unfold shapedBean shapedLines
  split
  · have fields : (Script.forEach shape.fields fun f => f.write members).Joins
        (shape.fields.flatMap fun f => f.lines members) := .forEach fun f => write_joins f members
    exact sectionBlock_opens name (beanBlock_stands shape.className fields.fills).writes.fills
  · split
    · exact sectionBlock_opens name (Writes.line _).fills
    · exact .nothing ()

/-- A shaped bean with a result behind it. -/
theorem settingsBean_opens {α : Type} (name : String) (shape : BeanShape)
    (members : List (String × Value)) (a : α) :
    (shapedBean name shape members true >>= fun _ => pure a).Opens
      (shapedLines name shape members true) :=
  (shapedBean_opens name shape members true).result a

/-- What is chosen by a kind, which may be left out or left empty. -/
theorem choice_opens {κ : Type} (kind : Option String) (ofName : String → Except Failure κ)
    {f : κ → Script Bool} {lines : κ → List Line} (each : ∀ k, (f k).Opens (lines k)) :
    (match Text.nonEmpty? kind with
      | none => pure false
      | some name => Script.ofExcept (ofName name) >>= f : Script Bool).Opens
        (chosenLines kind ofName lines) := by
  unfold chosenLines
  cases Text.nonEmpty? kind with
  | none => exact .nothing false
  | some name =>
    refine .ofExcept_bind fun k found => ?_
    simp only [found]
    exact each k

theorem evictionPolicy_opens (policy : Option EvictionPolicyConfig) (propertyName : String) :
    (evictionPolicy policy propertyName).Opens (evictionLines policy propertyName) := by
  cases policy with
  | none => exact .nothing false
  | some p =>
    rw [evictionLines, Option.toList_some, List.flatMap_singleton]
    exact choice_opens p.kind _ fun k => settingsBean_opens _ _ _ true

theorem marshaller_opens (config : Option MarshallerConfig) :
    (marshaller config).Opens (marshallerLines config) := by
  cases config with
  | none => exact .nothing false
  | some m =>
    rw [marshallerLines, Option.toList_some, List.flatMap_singleton]
    exact choice_opens m.kind _ fun k => settingsBean_opens _ _ _ true

theorem swapSpace_opens (config : Option SwapSpaceSpiConfig) :
    (swapSpace config).Opens (swapSpaceLines config) := by
  cases config with
  | none => exact .nothing false
  | some s =>
    rw [swapSpace, swapSpaceLines, Option.toList_some, List.flatMap_singleton]
    cases kind : s.kind with
    | none => exact .nothing false
    | some name =>
      by_cases isFile : name = fileSwapSpaceKind
      · have chosen : Text.nonEmpty? (some fileSwapSpaceKind) = some fileSwapSpaceKind := by decide
        simp only [isFile, chosen, if_true]
        exact settingsBean_opens _ _ _ true
      · rw [if_neg fun same => isFile (Option.some.inj same)]
        split
        · exact .nothing false
        · rename_i given chosen
          have same : given = name := by
            simp only [Text.nonEmpty?] at chosen
            split at chosen
            · cases chosen
            · exact (Option.some.inj chosen).symm
          rw [same, if_neg isFile]
          exact .fail _

/-! ## Stores -/

/-- Registering a data source writes nothing, so it opens a section without lines. -/
theorem register_opens (source : Option DataSource) :
    (Script.forSome source Script.register).Opens [] := by
  cases source with
  | none => exact .nothing ()
  | some s => exact fun _ _ => rfl

/-- A section that is asked for and found is the one whose settings the outline shows. -/
theorem membersOf_required {α : Type} [HasMembers α] {slot : Slot} {kind : String}
    {part : Option α} {a : α} (found : requiredSection slot kind part = .ok a) :
    membersOf part = HasMembers.members a := by
  cases part with
  | none => cases found
  | some b =>
    cases found
    rfl

/-- A store opens the section of its bean; what it registers behind it adds no line. -/
theorem storeFactoryOf_opens (kind : StoreKind) (f : StoreFactoryConfig) :
    (storeFactoryOf kind f).Opens
      (shapedLines "cacheStoreFactory" kind.shape (kind.settings f) true) := by
  cases kind with
  | jdbcPojo =>
    refine .ofExcept_bind fun settings found => ?_
    have bean : (storeFactoryBean .jdbcPojo settings).Opens
        (shapedLines "cacheStoreFactory" StoreKind.jdbcPojo.shape
          (StoreKind.jdbcPojo.settings f) true) := by
      rw [StoreKind.settings, membersOf_required found]
      exact shapedBean_opens _ _ _ true
    have registers : (Script.ofExcept (dataSourceOf settings) >>= fun source =>
        Script.forSome source Script.register).Opens [] :=
      .ofExcept_bind fun source _ => register_opens source
    simpa using bean.next registers
  | jdbcBlob =>
    refine .ofExcept_bind fun settings found => ?_
    rw [StoreKind.settings, membersOf_required found]
    exact shapedBean_opens _ _ _ true
  | hibernateBlob =>
    refine .ofExcept_bind fun settings found => ?_
    rw [StoreKind.settings, membersOf_required found]
    exact shapedBean_opens _ _ _ true

theorem storeFactory_opens (factory : Option StoreFactoryConfig) :
    (storeFactory factory).Opens (storeLines factory) := by
  cases factory with
  | none => exact .nothing false
  | some f =>
    rw [storeLines, Option.toList_some, List.flatMap_singleton]
    exact choice_opens f.kind _ fun k => (storeFactoryOf_opens k f).result true

/-! ## Discovery -/

theorem finderBean_writes (finder : IpFinder) : finder.bean.Writes (finderLines finder) := by
  have bare : ∀ className : String,
      (Script.line (beanTag (.written className))).Writes (bareBean className) :=
    fun className => .line (beanTag (.written className))
  cases finder with
  | multicast m =>
    simp only [IpFinder.bean, finderLines, List.append_assoc]
    refine (beanBlock_stands _ (Opens.fills ?_)).writes
    iterate 4 refine (property_opens _ _).next ?_
    exact property_opens _ _
  | vm v =>
    simp only [IpFinder.bean, finderLines]
    split
    · exact bare _
    · exact (beanBlock_stands _ (listProperty_opens "addresses" "list" v.addresses).fills).writes
  | s3 s =>
    simp only [IpFinder.bean, finderLines]
    refine (beanBlock_stands _ ?_).writes
    split
    · rename_i bucket given
      rw [given]
      exact (Writes.line (propertyTag "bucketName" (.plain bucket))).fills
    · rename_i none
      rw [none]
      exact (Writes.nothing ()).fills
  | cloud c =>
    simp only [IpFinder.bean, finderLines, List.append_assoc]
    refine (beanBlock_stands _ (Opens.fills ?_)).writes
    iterate 4 refine (property_opens _ _).next ?_
    exact (listProperty_opens _ _ _).next (listProperty_opens _ _ _)
  | googleStorage g =>
    simp only [IpFinder.bean, finderLines, List.append_assoc]
    refine (beanBlock_stands _ (Opens.fills ?_)).writes
    iterate 3 refine (property_opens _ _).next ?_
    exact property_opens _ _
  | jdbc j => exact (beanBlock_stands _ (property_opens "initSchema" _).fills).writes
  | sharedFs f =>
    simp only [IpFinder.bean, finderLines]
    cases Text.nonEmpty? f.path with
    | some path => exact (beanBlock_stands _ (property_opens "path" _).fills).writes
    | none => exact bare _

/-- Discovery opens one section, in which the bean of the finder stands two elements deeper. -/
theorem discovery_opens (d : DiscoveryConfig) :
    (discovery d).Opens (discoveryLines (some d)) := by
  refine .ofExcept_bind fun finder found => ?_
  have finds := propertyBlock_stands "ipFinder" (finderBean_writes finder).fills
  simp only [discoveryLines, Option.toList_some, List.flatMap_singleton, found]
  exact sectionBlock_opens "discoverySpi"
    (beanBlock_stands tcpDiscoverySpi finds.writes.fills).writes.fills

/-! ## Event types -/

theorem groupEvents_writes (g : EventGroup) : (groupEvents g).Writes (groupEventLines g) :=
  (Writes.line _).next (.forEach_line g.events eventConstant)

/-- One group fills the property with its own constant, several fill it with an array. -/
theorem eventGroups_fill (groups : List EventGroup) :
    (match groups with
      | [g] => Script.line (eventConstant g.name)
      | groups => .block "array" [] (.forEachSpaced groups groupEvents)).Fills
        (eventGroupLines groups) := by
  have several : (Script.block "array" [] (.forEachSpaced groups groupEvents)).Fills
      (elementLines "array" [] (spaced (groups.map groupEventLines))) :=
    container_fills "array"
      (Writes.forEachSpaced groupEvents_writes fun g => List.cons_ne_nil _ _).fills
  match groups with
  | [] => exact several
  | [g] => exact (Writes.line (eventConstant g.name)).fills
  | _ :: _ :: _ => exact several

/-- The events are a group of the node if any are named, and nothing otherwise. -/
theorem eventTypes_parts (names : List String) : (eventTypes names).Parts (eventLines names) := by
  rw [eventTypes, eventLines]
  split
  · exact (Opens.nothing ()).skipped
  · cases names.mapM groupNamed with
    | error e => exact fun _ _ _ => nofun
    | ok groups =>
      have written := sectionBlock_opens "includeEventTypes" (eventGroups_fill groups)
      have requested := written.requested
      rw [Script.next_assoc] at requested
      exact requested

/-! ## Type entries -/

theorem databaseField_stands (f : DatabaseField) :
    (databaseField f).Stands (databaseFieldLines f) := by
  have constant : (propertyBlock "databaseType"
      (.line (constantTag "java.sql.Types" f.databaseType))).Joins
        (propertyAround "databaseType"
          (pieceLines [constantTag "java.sql.Types" f.databaseType])) :=
    (propertyBlock_stands "databaseType" (Writes.line _).fills).joins (elementLines_ne_nil _ _ _)
  refine beanBlock_stands typeFieldClass (Joins.fills ?_)
  simp only [List.append_assoc]
  refine (property_opens _ _).joins.next (constant.next ?_)
  exact (property_opens _ _).joins.next (classProperty_opens _ _).joins

theorem databaseFields_joins (name : String) (fields : List DatabaseField) :
    (databaseFields name fields).Joins (databaseFieldsLines name fields) :=
  containerProperty_joins name "list" fields databaseField_stands
    fun _ => elementLines_ne_nil _ _ _

theorem queryFields_joins (name : String) (fields : List QueryField) :
    (queryFields name fields).Joins (queryFieldsLines name fields) := by
  cases fields with
  | nil => exact .nothing ()
  | cons f rest =>
    exact (propertyBlock_stands name
      (container_fills "map" (Writes.forEach_line (f :: rest) _).fills)).joins
        (elementLines_ne_nil _ _ _)

theorem groupField_stands (f : GroupField) : (groupField f).Stands (groupFieldLines f) := by
  have tuple : (beanBlock tupleClass (do
      Script.line (.emptyTag "constructor-arg" [attr "value" (resolveClassName f.className)])
      Script.line
        (.emptyTag "constructor-arg" [⟨"value", PropertyValue.attributeValue f.direction⟩]))).Stands
      (beanAround tupleClass (pieceLines
        [.emptyTag "constructor-arg" [attr "value" (resolveClassName f.className)],
          .emptyTag "constructor-arg" [⟨"value", PropertyValue.attributeValue f.direction⟩]])) :=
    beanBlock_stands tupleClass ((Writes.line _).next (.line _)).fills
  exact tuple.writes.fills.block "entry" [attr "key" f.name]

theorem fieldGroup_stands (g : FieldGroup) : (fieldGroup g).Stands (fieldGroupLines g) := by
  have fields : (Script.forEach g.fields groupField).Writes (g.fields.flatMap groupFieldLines) :=
    .forEach fun f => (groupField_stands f).writes
  exact (container_fills "map" fields.fills).block "entry" [attr "key" g.name]

theorem databaseSide_joins (t : TypeMetadata) :
    (databaseSide t).Joins (databaseSideLines t) := by
  simp only [databaseSideLines, List.append_assoc]
  refine (property_opens _ _).joins.next ((property_opens _ _).joins.next ?_)
  exact ((databaseFields_joins "keyFields" t.keyFields).onlyIf _).next
    (databaseFields_joins "valueFields" t.valueFields)

theorem querySide_joins (t : TypeMetadata) : (querySide t).Joins (querySideLines t) := by
  simp only [querySideLines, List.append_assoc]
  iterate 3 refine (queryFields_joins _ _).next ?_
  refine (listProperty_opens "textFields" "list" t.textFields).joins.next ?_
  exact containerProperty_joins "groups" "map" _ fieldGroup_stands
    fun _ => elementLines_ne_nil _ _ _

/-- A type stands as one bean, whatever was written ahead of it. -/
theorem typeEntry_stands (t : TypeMetadata) : (typeEntry t).Stands (typeEntryLines t) := by
  refine beanBlock_stands typeMetadataClass (Joins.fills ?_)
  simp only [List.append_assoc]
  refine (classProperty_opens _ _).joins.next ((property_opens _ _).joins.next ?_)
  exact ((databaseSide_joins t).onlyIf _).next ((querySide_joins t).onlyIf _)

/-- On any sheet a type adds the lines of its bean at the depth of the sheet. -/
theorem lines_typeEntry (t : TypeMetadata) (sheet : Sheet) :
    ((typeEntry t).runOn sheet).lines =
      sheet.lines ++ deeper sheet.cursor.depth (typeEntryLines t) :=
  (typeEntry_stands t).writes.lines_runOn (failure?_typeEntry t) sheet

/-- Types open one section, with a bean for each name at its first occurrence. -/
theorem typeEntries_opens (query store : List TypeMetadata) :
    (typeEntries query store).Opens (typeEntriesLines query store) := by
  unfold typeEntries typeEntriesLines
  cases all : query ++ store with
  | nil =>
    obtain ⟨rfl, rfl⟩ := List.append_eq_nil_iff.mp all
    exact .nothing ()
  | cons t rest =>
    have present : (query.isEmpty && store.isEmpty) = false := by
      cases query with
      | nil =>
        cases store with
        | nil => cases all
        | cons => rfl
      | cons => rfl
    have entries : (Script.forEach (firstByName [] (t :: rest)) typeEntry).Writes
        ((firstByName [] (t :: rest)).flatMap typeEntryLines) :=
      .forEach fun t => (typeEntry_stands t).writes
    have filled : (firstByName [] (t :: rest)).flatMap typeEntryLines ≠ [] := by
      simp [firstByName, typeEntryLines, beanAround, elementLines]
    rw [present, containerLines, if_neg filled]
    exact sectionBlock_opens "typeMetadata" (container_fills "list" entries.fills)

/-! ## Caches -/

theorem nearCacheBean_stands (id : Option String) (near : Option NearCacheConfig) :
    (nearCacheBean id near).Stands (nearBeanLines id near) := by
  have inside : (Script.forSome near nearProperties).Fills (near.toList.flatMap nearLines) := by
    cases near with
    | none => exact (Writes.nothing ()).fills
    | some n =>
      rw [Option.toList_some, List.flatMap_singleton]
      exact ((property_opens "nearStartSize" n.nearStartSize).next
        (evictionPolicy_opens n.nearEvictionPolicy "nearEvictionPolicy").discard).fills
  cases id with
  | none => exact inside.block "bean" _
  | some id => exact inside.block "bean" _

theorem cacheLayout_opens (c : CacheConfig) : (cacheLayout c).Opens (cacheLayoutLines c) := by
  simp only [cacheLayoutLines, List.append_assoc]
  refine (property_opens _ _).next ((property_opens _ _).next ?_)
  refine ((property_opens _ _).onlyIf _).next ?_
  exact (property_opens _ _).next (property_opens _ _)

theorem cacheMemory_opens (c : CacheConfig) : (cacheMemory c).Opens (cacheMemoryLines c) := by
  simp only [cacheMemoryLines, List.append_assoc]
  iterate 3 refine (property_opens _ _).next ?_
  exact property_opens _ _

theorem cacheNear_opens (c : CacheConfig) : (cacheNear c).Opens (cacheNearLines c) :=
  (sectionBlock_opens "nearConfiguration"
    (nearCacheBean_stands none c.nearConfiguration).writes.fills).onlyIf _

theorem cacheQueries_opens (c : CacheConfig) : (cacheQueries c).Opens (cacheQueriesLines c) := by
  simp only [cacheQueriesLines, List.append_assoc]
  iterate 3 refine (property_opens _ _).next ?_
  exact (listProperty_opens _ _ _).next (listProperty_opens _ _ _)

/-- A request of its own goes with the properties for rebalancing. -/
theorem cacheRebalance_parts (c : CacheConfig) :
    (cacheRebalance c).Parts (cacheRebalanceLines c) := by
  rw [cacheRebalance, cacheRebalanceLines, Script.onlyIf]
  by_cases onNode : c.mode = some .onNode
  · rw [if_neg (not_not.mpr onNode), if_pos onNode]
    exact (Opens.nothing ()).skipped
  · rw [if_pos onNode, if_neg onNode]
    simp only [List.append_assoc]
    -- The request is the last line of the same block, so it has to be split off first.
    have requested :=
      ((property_opens "rebalanceMode" c.rebalanceMode).next <|
      (property_opens "rebalanceThreadPoolSize" c.rebalanceThreadPoolSize).next <|
      (property_opens "rebalanceBatchSize" c.rebalanceBatchSize).next <|
      (property_opens "rebalanceOrder" c.rebalanceOrder).next <|
      (property_opens "rebalanceDelay" c.rebalanceDelay).next <|
      (property_opens "rebalanceTimeout" c.rebalanceTimeout).next <|
      property_opens "rebalanceThrottle" c.rebalanceThrottle).requested
    simp only [Script.next_assoc] at requested
    exact requested

theorem cacheThrough_opens (c : CacheConfig) : (cacheThrough c).Opens (cacheThroughLines c) := by
  simp only [cacheThroughLines, List.append_assoc]
  iterate 2 refine (property_opens _ _).next ?_
  exact property_opens _ _

theorem cacheLocking_opens (c : CacheConfig) : (cacheLocking c).Opens (cacheLockingLines c) := by
  simp only [cacheLockingLines, List.append_assoc]
  iterate 2 refine (property_opens _ _).next ?_
  exact property_opens _ _

theorem cacheWriteBehind_opens (c : CacheConfig) :
    (cacheWriteBehind c).Opens (cacheWriteBehindLines c) := by
  simp only [cacheWriteBehindLines, List.append_assoc]
  iterate 4 refine (property_opens _ _).next ?_
  exact property_opens _ _

/-- The properties of a cache are its groups, with a request behind each that is not the last. -/
theorem cacheProperties_spaces (c : CacheConfig) :
    (cacheProperties c).Spaces (cacheGroups c) := by
  refine (property_opens "name" c.name).spaces ?_
  refine (cacheLayout_opens c).spaces ?_
  refine (cacheMemory_opens c).spaces ?_
  refine (evictionPolicy_opens c.evictionPolicy "evictionPolicy").discard.spaces ?_
  refine (cacheNear_opens c).spaces ?_
  refine (cacheQueries_opens c).spaces ?_
  refine cacheRebalance_parts c _ _ ?_
  refine (storeFactory_opens c.cacheStoreFactory).discard.spaces ?_
  refine (cacheThrough_opens c).spaces ?_
  refine (cacheLocking_opens c).spaces ?_
  refine (cacheWriteBehind_opens c).spaces ?_
  refine ((property_opens _ _).next (property_opens _ _)).spaces ?_
  exact .last ((property_opens _ _).next (typeEntries_opens c.queryMetadata c.storeMetadata))

/-- The bean of a cache stands as its spaced groups, whatever was written ahead of it. -/
theorem cacheBean_stands (c : CacheConfig) : (cacheBean c).Stands (cacheLines c) :=
  beanBlock_stands cacheClass (cacheProperties_spaces c).fills

/-! ## Nodes -/

/-- A part that says whether it is chosen is a group of its own exactly if it is. -/
theorem chosenPart_parts {part : Script Bool} {lines : List Line} (opens : part.Opens lines)
    (unchosen : part.outcome = .ok false → lines = []) : (chosenPart part).Parts lines := by
  -- Whether a blank line is requested depends on the result, so the outcome is looked at first.
  cases result : part.outcome with
  | error e =>
    have fails : (chosenPart part).failure? = some e := by
      rw [chosenPart, failure?_bind, result]
    intro y groups _ succeeds
    rw [failure?_next, fails] at succeeds
    cases succeeds
  | ok chosen =>
    have same : chosenPart part = (part >>= fun _ => Script.onlyIf chosen requestBlank) := by
      show part.andThen _ = part.andThen _
      unfold Script.andThen
      rw [result]
    rw [same]
    cases chosen with
    | true => exact opens.requested
    | false =>
      obtain rfl := unchosen result
      exact (opens.result ()).skipped

/-- What ends with a choice is not left out. -/
theorem outcome_chosen {κ : Type} (found : Except Failure κ) (f : κ → Script Unit) :
    (Script.ofExcept found >>= fun k => f k >>= fun _ => pure true).outcome ≠ .ok false := by
  cases found with
  | error e => exact nofun
  | ok k =>
    show (f k >>= fun _ => pure true).outcome ≠ .ok false
    rw [outcome_bind]
    cases (f k).outcome with
    | error e => exact nofun
    | ok u => exact nofun

theorem marshaller_parts (config : Option MarshallerConfig) :
    (chosenPart (marshaller config)).Parts (marshallerLines config) := by
  refine chosenPart_parts (marshaller_opens config) fun left => ?_
  cases config with
  | none => rfl
  | some m =>
    rw [marshaller] at left
    split at left
    · rename_i unset
      simp [marshallerLines, chosenLines, unset]
    · exact absurd left (outcome_chosen _ _)

theorem swapSpace_parts (config : Option SwapSpaceSpiConfig) :
    (chosenPart (swapSpace config)).Parts (swapSpaceLines config) := by
  refine chosenPart_parts (swapSpace_opens config) fun left => ?_
  cases config with
  | none => rfl
  | some s =>
    rw [swapSpace] at left
    split at left
    · rename_i unset
      have other : s.kind ≠ some fileSwapSpaceKind := by
        rintro same
        rw [same] at unset
        cases unset
      simp [swapSpaceLines, other]
    · split at left
      · exact absurd left (outcome_chosen (.ok ())
          fun _ => shapedBean "swapSpaceSpi" .fileSwapSpaceSpi (membersOf s.file) true)
      · cases left

theorem clientMode_parts (client : Bool) : (clientMode client).Parts (clientModeLines client) := by
  cases client with
  | false => exact (Opens.nothing ()).skipped
  | true => exact (property_opens "clientMode" (some true)).requested

theorem nodeDiscovery_parts (c : ClusterConfig) :
    (nodeDiscovery c).Parts (discoveryLines c.discovery) := by
  rw [nodeDiscovery]
  cases c.discovery with
  | none => exact (Opens.nothing ()).skipped
  | some d => exact (discovery_opens d).requested

/-- Caches open one section, with a blank line between each two of them. -/
theorem nodeCaches_opens (caches : List CacheConfig) :
    (nodeCaches caches).Opens (cachesLines caches) := by
  cases caches with
  | nil => exact .nothing ()
  | cons c rest =>
    have filled : ∀ c : CacheConfig, cacheLines c ≠ [] := fun _ => elementLines_ne_nil _ _ _
    have beans : (Script.forEachSpaced (c :: rest) cacheBean).Writes
        (spaced ((c :: rest).map cacheLines)) :=
      .forEachSpaced (fun c => (cacheBean_stands c).writes) filled
    have present : spaced ((c :: rest).map cacheLines) ≠ [] := by
      rw [ne_eq, spaced_eq_nil]
      exact fun none => filled c (none (cacheLines c) List.mem_cons_self)
    rw [cachesLines, containerLines, if_neg present]
    exact sectionBlock_opens "cacheConfiguration" (container_fills "list" beans.fills)

theorem nodeNetwork_opens (c : ClusterConfig) : (nodeNetwork c).Opens (nodeNetworkLines c) := by
  simp only [nodeNetworkLines, List.append_assoc]
  iterate 5 refine (property_opens _ _).next ?_
  exact property_opens _ _

theorem nodeMarshalling_opens (c : ClusterConfig) :
    (nodeMarshalling c).Opens (nodeMarshallingLines c) := by
  simp only [nodeMarshallingLines, List.append_assoc]
  iterate 2 refine (property_opens _ _).next ?_
  exact property_opens _ _

theorem nodeMetrics_opens (c : ClusterConfig) : (nodeMetrics c).Opens (nodeMetricsLines c) := by
  simp only [nodeMetricsLines, List.append_assoc]
  iterate 3 refine (property_opens _ _).next ?_
  exact property_opens _ _

theorem nodeClassLoading_opens (c : ClusterConfig) :
    (nodeClassLoading c).Opens (nodeClassLoadingLines c) := by
  simp only [nodeClassLoadingLines, List.append_assoc]
  refine (property_opens _ _).next ((listProperty_opens _ _ _).next ?_)
  exact (property_opens _ _).next (property_opens _ _)

theorem nodeTime_opens (c : ClusterConfig) : (nodeTime c).Opens (nodeTimeLines c) := by
  simp only [nodeTimeLines, List.append_assoc]
  iterate 3 refine (property_opens _ _).next ?_
  exact property_opens _ _

theorem nodeThreadPools_opens (c : ClusterConfig) :
    (nodeThreadPools c).Opens (nodeThreadPoolLines c) := by
  simp only [nodeThreadPoolLines, List.append_assoc]
  iterate 3 refine (property_opens _ _).next ?_
  exact property_opens _ _

/-- The properties of a node are its groups, each of which asks for a blank line behind it, the
caches excepted. -/
theorem nodeProperties_spaces (c : ClusterConfig) (client : Bool) :
    (nodeProperties c client).Spaces (clientModeLines client :: nodeGroups c) := by
  refine clientMode_parts client _ _ ?_
  refine nodeDiscovery_parts c _ _ ?_
  refine (shapedBean_opens _ _ _ _).spaces ?_
  refine (nodeNetwork_opens c).spaces ?_
  refine (property_opens _ _).spaces ?_
  refine eventTypes_parts c.includeEventTypes _ _ ?_
  refine marshaller_parts c.marshaller _ _ ?_
  refine (nodeMarshalling_opens c).spaces ?_
  refine (nodeMetrics_opens c).spaces ?_
  refine (nodeClassLoading_opens c).spaces ?_
  refine swapSpace_parts c.swapSpaceSpi _ _ ?_
  refine (nodeTime_opens c).spaces ?_
  refine (nodeThreadPools_opens c).spaces ?_
  refine (shapedBean_opens _ _ _ _).spaces ?_
  exact .last (nodeCaches_opens c.caches)

theorem nodeBean_stands (c : ClusterConfig) (client : Bool) :
    (beanBlock nodeClass (nodeProperties c client)).Stands (nodeLines c client) :=
  beanBlock_stands nodeClass (nodeProperties_spaces c client).fills

theorem clientNearBean_writes (clientNear : Option NearCacheConfig) :
    (clientNearBean clientNear).Writes (clientNearLines clientNear) := by
  cases clientNear with
  | none => exact .nothing ()
  | some near =>
    rw [clientNearLines, Option.toList_some, List.flatMap_singleton]
    exact (nearCacheBean_stands (some nearCacheId) (some near)).writes.next .blank

/-- The beans of a node are the lines of the near cache of a client, then those of the node. -/
theorem nodeBeans_writes (c : ClusterConfig) (clientNear : Option NearCacheConfig) :
    (nodeBeans c clientNear).Writes
      (clientNearLines clientNear ++ nodeLines c clientNear.isSome) :=
  (clientNearBean_writes clientNear).next (nodeBean_stands c clientNear.isSome).writes

end GridBeans.Generation
