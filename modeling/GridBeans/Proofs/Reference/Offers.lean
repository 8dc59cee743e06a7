import GridBeans.Proofs.Generation.EventExpansion
import GridBeans.Proofs.Reference.Listings
import GridBeans.Proofs.Rules
import GridBeans.Proofs.Catalogue.Names

/-!
# What the listings offer

A description refers by name to kinds, classes, dialects and event groups. What the listings have
under a name is what becomes of this name in a description: a kind is refused exactly if it is not
listed, and else the bean of its slot has the listed class; and so for the other names.
-/
namespace GridBeans.Reference

open GridBeans.Xml GridBeans.Json GridBeans.Catalogue GridBeans.Generation GridBeans.Config

/-! ## Beans of a slot -/

def slotProperty (name : String) (node : Node) : Node :=
  .element "property" [("name", name)] [node]

/-- The discovery property around the bean of a finder. -/
def finderProperty (finder : Node) : Node :=
  slotProperty "discoverySpi"
    (.element "bean" [("class", tcpDiscoverySpi)] [slotProperty "ipFinder" finder])

/-- Behind the lines of any sheet a script writes one element, and this is what is put around a bean
of the class. -/
def WritesBean {α : Type} (x : Script α) (around : Node → Node) (className : String) : Prop :=
  ∃ children, ∀ sheet : Markup.Sheet, ∃ added, (x.runOn sheet).lines = sheet.lines ++ added ∧
    WholeLines added ∧ nodesOf added = [around (.element "bean" [("class", className)] children)]

theorem WritesBean.of_opens {α : Type} {x : Script α} {around : Node → Node} {className : String}
    {lines : List Markup.Line} {children : List Node} (opens : x.Opens lines)
    (succeeds : x.failure? = none) (whole : WholeLines lines)
    (nodes : nodesOf lines = [around (.element "bean" [("class", className)] children)]) :
    WritesBean x around className := by
  refine ⟨children, fun sheet => ?_⟩
  have after := congrArg Markup.Sheet.lines (opens.runOn_eq succeeds sheet)
  refine ⟨_, after, ?_, ?_⟩
  · rw [WholeLines, filterMap_piece?_added]
    exact whole
  · rw [nodesOf, filterMap_piece?_added]
    exact nodes

theorem failure?_of_ok {α : Type} {x : Script α} {a : α} (result : x.outcome = .ok a) :
    x.failure? = none :=
  x.exists_outcome_ok_iff.mp ⟨a, result⟩

/-- A bean of a shape is written around what its settings say. -/
theorem writesBean_shaped (name : String) (shape : BeanShape) (members : List (String × Value)) :
    let part : Script Bool := do shapedBean name shape members true; pure true
    part.outcome = .ok true ∧ WritesBean part (slotProperty name) shape.className := by
  intro part
  have bean := failure?_shapedBean name shape members true
  have succeeds : part.failure? = none := by simp [part]
  obtain ⟨u, done⟩ := (shapedBean name shape members true).exists_outcome_ok_iff.mpr bean
  obtain ⟨whole, children, nodes⟩ := shapedLines_forced name shape members
  refine ⟨?_, .of_opens (settingsBean_opens name shape members true) succeeds whole nodes⟩
  rw [Script.outcome_bind, done]
  rfl

/-! ## Slots -/

/-- The part of a slot takes the kinds that are listed for it: it refuses a kind exactly if it is
not listed, and where it succeeds it writes a bean of the listed class. -/
structure Offers {κ α : Type} (slot : String) (place : Slot) (kindOf : κ → Option String)
    (part : κ → Script α) (around : Node → Node) : Prop where
  accepted : ∀ (c : κ) (kind : String), kindOf c = some kind → kind ≠ "" →
    ((listed? knownClassesText ["variants", slot, kind]).isSome = true ↔
      (part c).outcome ≠ .error (.unknownKind place kind))
  written : ∀ (c : κ) (kind : String) (a : α), kindOf c = some kind → kind ≠ "" →
    (part c).outcome = .ok a →
      ∃ className, listed? knownClassesText ["variants", slot, kind] = some (.string className) ∧
        WritesBean (part c) around className

section

variable {κ α ι : Type} {slot : String} {place : Slot} {kindOf : κ → Option String}
  {part : κ → Script α} {around : Node → Node}

/-- A slot whose part looks its kind up in the table that is listed. -/
theorem Offers.of_table {all : List ι} {name className : ι → String}
    (isSlot : ⟨slot, all.map fun k => (name k, className k)⟩ ∈ slotKinds)
    (unknown : ∀ c kind, kindOf c = some kind → kind ≠ "" →
      all.find? (name · == kind) = none → (part c).outcome = .error (.unknownKind place kind))
    (known : ∀ c k, kindOf c = some (name k) → name k ≠ "" →
      all.find? (name · == name k) = some k →
        (part c).outcome ≠ .error (.unknownKind place (name k)) ∧
        ∀ a, (part c).outcome = .ok a → WritesBean (part c) around (className k)) :
    Offers slot place kindOf part around where
  accepted c kind given filled := by
    rcases kind_cases isSlot kind with ⟨k, rfl, found, listed⟩ | ⟨missing, notListed⟩
    · rw [listed]
      exact ⟨fun _ => (known c k given filled found).1, fun _ => rfl⟩
    · rw [notListed]
      exact ⟨nofun, fun accepted => absurd (unknown c kind given filled missing) accepted⟩
  written c kind a given filled result := by
    rcases kind_cases isSlot kind with ⟨k, rfl, found, listed⟩ | ⟨missing, -⟩
    · exact ⟨className k, listed, (known c k given filled found).2 a result⟩
    · rw [unknown c kind given filled missing] at result
      cases result

/-- A slot whose part is a bean of the shape of the chosen kind. -/
theorem Offers.of_shape {part : κ → Script Bool} {property : String} (all : List ι)
    (name : ι → String) (shape : ι → BeanShape) (members : ι → κ → List (String × Value))
    (isSlot : ⟨slot, all.map fun k => (name k, (shape k).className)⟩ ∈ slotKinds)
    (parts : ∀ c kind, kindOf c = some kind → kind ≠ "" →
      part c = (match all.find? (name · == kind) with
        | some k => do shapedBean property (shape k) (members k c) true; pure true
        | none => Script.fail (.unknownKind place kind))) :
    Offers slot place kindOf part (slotProperty property) := by
  refine .of_table isSlot (fun c kind given filled missing => ?_)
    fun c k given filled found => ?_
  · rw [parts c kind given filled, missing]
    rfl
  · obtain ⟨result, written⟩ := writesBean_shaped property (shape k) (members k c)
    rw [parts c (name k) given filled, found]
    exact ⟨fun refused => (nomatch result.symm.trans refused), fun _ _ => written⟩

end

/-- The policies that are taken are those that are listed, and the bean has the listed class. -/
theorem evictionPolicy_offers (propertyName : String) :
    Offers "evictionPolicy" .evictionPolicy EvictionPolicyConfig.kind
      (fun p => evictionPolicy (some p) propertyName) (slotProperty propertyName) := by
  refine .of_shape EvictionKind.all EvictionKind.name EvictionKind.shape
    (fun k p => membersOf (k.limits p)) (by decide) fun p kind given filled => ?_
  rw [evictionPolicy, given, nonEmpty?_some, if_neg filled]
  simp only [EvictionKind.ofName]
  cases EvictionKind.all.find? (·.name == kind) <;> rfl

theorem marshaller_offers :
    Offers "marshaller" .marshaller MarshallerConfig.kind (fun m => marshaller (some m))
      (slotProperty "marshaller") := by
  refine .of_shape MarshallerKind.all MarshallerKind.name MarshallerKind.shape
    (fun k m => k.settings m) (by decide) fun m kind given filled => ?_
  rw [marshaller, given, nonEmpty?_some, if_neg filled]
  simp only [MarshallerKind.ofName]
  cases MarshallerKind.all.find? (·.name == kind) <;> rfl

theorem swapSpace_offers :
    Offers "swapSpaceSpi" .swapSpace SwapSpaceSpiConfig.kind (fun s => swapSpace (some s))
      (slotProperty "swapSpaceSpi") := by
  refine .of_shape [()] (fun _ => fileSwapSpaceKind) (fun _ => .fileSwapSpaceSpi)
    (fun _ s => membersOf s.file) (by decide) fun s kind given filled => ?_
  rw [swapSpace, given, nonEmpty?_some, if_neg filled]
  by_cases isFile : kind = fileSwapSpaceKind
  · simp [isFile]
  · simp [isFile, Ne.symm isFile]

/-- The stores that are taken are those that are listed, and the bean has the listed class. -/
theorem storeFactory_offers :
    Offers "cacheStoreFactory" .storeFactory StoreFactoryConfig.kind
      (fun f => storeFactory (some f)) (slotProperty "cacheStoreFactory") := by
  have isSlot : (⟨"cacheStoreFactory", StoreKind.all.map fun k => (k.name, k.shape.className)⟩ :
      SlotKinds) ∈ slotKinds := by decide
  refine .of_table isSlot (fun f kind given filled missing => ?_)
    fun f k named filled _ => ⟨fun refused => ?_, fun a result => ?_⟩
  · rw [storeFactory, given, nonEmpty?_some, if_neg filled]
    simp only [StoreKind.ofName, missing]
    rfl
  · have ending := storeFactory_ends (some f) (Desk.empty 0)
    have known : k.name ∈ storeKinds := by cases k <;> decide
    generalize (Desk.empty 0).run (storeFactory (some f)) = after at ending
    rw [refused] at ending
    cases ending with
    | unknownKind _ _ unknown => exact unknown known
  · obtain ⟨whole, children, nodes⟩ :=
      shapedLines_forced "cacheStoreFactory" k.shape (k.settings f)
    have opens := storeFactory_opens (some f)
    rw [storeLines_of_kind named] at opens
    exact .of_opens opens (failure?_of_ok result) whole nodes

/-- The finder that is chosen is of the kind that is named. -/
theorem kind_of_chosen {d : DiscoveryConfig} {finder : IpFinder}
    (chosen : IpFinder.ofConfig d = .ok finder) : FinderKind.ofName d.kind = .ok finder.kind := by
  unfold IpFinder.ofConfig at chosen
  cases found : FinderKind.ofName d.kind with
  | error e =>
    rw [found] at chosen
    cases chosen
  | ok k =>
    rw [found] at chosen
    cases k with
    | s3 =>
      cases chosen
      rfl
    | multicast | vm | cloud | googleStorage | jdbc | sharedFs =>
      obtain ⟨settings, -, rfl⟩ := ok_requiredSection chosen
      rfl

/-- A kind that is known fails, if it does, only for its missing section. -/
theorem missing_of_known {d : DiscoveryConfig} {k : FinderKind} {e : Failure}
    (known : FinderKind.ofName d.kind = .ok k) (failed : IpFinder.ofConfig d = .error e) :
    ∃ kind, e = .missingSection .discovery kind := by
  have lacks : ∀ {β γ : Type} {f : β → γ} {given : Option β},
      f <$> requiredSection .discovery k.name given = .error e →
        ∃ kind, e = .missingSection .discovery kind := by
    intro β γ f given failed
    cases given with
    | some _ => cases failed
    | none => exact ⟨k.name, (Except.error.inj failed).symm⟩
  unfold IpFinder.ofConfig at failed
  rw [known] at failed
  cases k with
  | s3 => cases failed
  | multicast | vm | cloud | googleStorage | jdbc | sharedFs => exact lacks failed

/-- The lines of discovery are the bean of the chosen finder, with what is around it. -/
theorem nodesOf_discoveryLines {d : DiscoveryConfig} {finder : IpFinder}
    (chosen : IpFinder.ofConfig d = .ok finder) :
    WholeLines (discoveryLines (some d)) ∧ ∃ children, nodesOf (discoveryLines (some d)) =
      [finderProperty (.element "bean" [("class", finder.kind.className)] children)] := by
  have inside := (finderLines_shows finder).whole
  obtain ⟨children, nodes, -⟩ := finder_needs finder
  have property : WholeLines (propertyAround "ipFinder" (finderLines finder)) :=
    inside.element _ _
  have bean : WholeLines (beanAround tcpDiscoverySpi
      (propertyAround "ipFinder" (finderLines finder))) := property.element _ _
  simp only [discoveryLines, Option.toList_some, List.flatMap_singleton, chosen]
  refine ⟨bean.element _ _, nodesOf children, ?_⟩
  rw [propertyAround, nodesOf_elementLines _ _ bean, beanAround, nodesOf_elementLines _ _ property,
    propertyAround, nodesOf_elementLines _ _ inside, nodes]
  rfl

/-- The finders that are taken are those that are listed, and the bean of the finder has the listed
class. -/
theorem discovery_offers :
    Offers "discovery" .discovery (fun d => some d.kind) discovery finderProperty := by
  have isSlot : (⟨"discovery", FinderKind.all.map fun k => (k.name, k.className)⟩ : SlotKinds) ∈
      slotKinds := List.mem_cons_self
  refine .of_table isSlot (fun d kind given filled missing => ?_)
    fun d k named filled found => ?_
  · have unknown : FinderKind.ofName d.kind = .error (.unknownKind .discovery kind) := by
      rw [Option.some.inj given, FinderKind.ofName, missing]
    rw [discovery, Script.outcome_bind, IpFinder.ofConfig, unknown]
    rfl
  · have known : FinderKind.ofName d.kind = .ok k := by
      rw [Option.some.inj named, FinderKind.ofName, found]
    cases chosen : IpFinder.ofConfig d with
    | error e =>
      obtain ⟨kind, rfl⟩ := missing_of_known known chosen
      have failed : (discovery d).outcome = .error (.missingSection .discovery kind) := by
        rw [discovery, Script.outcome_bind, chosen]
        rfl
      rw [failed]
      refine ⟨fun refused => ?_, fun a accepted => ?_⟩
      · cases refused
      · cases accepted
    | ok finder =>
      have isKind : finder.kind = k :=
        Except.ok.inj ((kind_of_chosen chosen).symm.trans known)
      have succeeds : (discovery d).failure? = none := by
        rw [discovery, Script.failure?_ofExcept_bind, chosen]
        simp
      obtain ⟨u, result⟩ := (discovery d).exists_outcome_ok_iff.mpr succeeds
      obtain ⟨whole, children, nodes⟩ := nodesOf_discoveryLines chosen
      rw [isKind] at nodes
      rw [result]
      refine ⟨fun refused => ?_, fun a _ => ?_⟩
      · cases refused
      · exact .of_opens (discovery_opens d) succeeds whole nodes

/-! ## Classes -/

/-- No dialect has the short name of a built-in class, so the two tables cannot contradict each
other. -/
theorem short_apart : ∀ c ∈ javaClasses, ∀ d ∈ dialects, c.short ≠ d.short := by decide

/-- A name is that of one Java library class or of one dialect, or it stands for itself. -/
theorem name_cases (name : String) :
    (∃ c, javaClasses.find? (·.short == name) = some c ∧
        dialects.find? (·.short == name) = none ∧
        resolveClassName name = c.qualified ∧ name ≠ c.qualified) ∨
      (∃ d, javaClasses.find? (·.short == name) = none ∧
        dialects.find? (·.short == name) = some d ∧
        resolveClassName name = d.qualified ∧ name ≠ d.qualified) ∨
      javaClasses.find? (·.short == name) = none ∧ dialects.find? (·.short == name) = none ∧
        resolveClassName name = name := by
  have inDialects : (dialects.map fun d => (⟨d.short, d.qualified⟩ : KnownClass)).find?
        (·.short == name) =
      (dialects.find? (·.short == name)).map fun d => ⟨d.short, d.qualified⟩ := List.find?_map
  rw [resolveClassName, knownClasses, List.find?_append, inDialects]
  cases java : javaClasses.find? (·.short == name) with
  | some c =>
    have named : c.short = name := by simpa using List.find?_some java
    have mem := List.mem_of_find?_eq_some java
    have noDialect : dialects.find? (·.short == name) = none := by
      refine List.find?_eq_none.mpr fun d inside => ?_
      simpa [named] using Ne.symm (short_apart c mem d inside)
    have known : c ∈ knownClasses := List.mem_append_left _ mem
    exact .inl ⟨c, rfl, noDialect, rfl, named ▸ short_ne_qualified c known c known⟩
  | none =>
    cases dialect : dialects.find? (·.short == name) with
    | some d =>
      have named : d.short = name := by simpa using List.find?_some dialect
      have known : ⟨d.short, d.qualified⟩ ∈ knownClasses :=
        List.mem_append_right _ (List.mem_map_of_mem (List.mem_of_find?_eq_some dialect))
      exact .inr (.inl ⟨d, rfl, rfl, rfl, named ▸ short_ne_qualified _ known _ known⟩)
    | none => exact .inr (.inr ⟨rfl, rfl, rfl⟩)

theorem at?_dialect (d : Dialect) :
    at? ["dialect"] (sortedObject [("dialect", .string d.qualified),
      ("dataSource", .string d.dataSource)]) = some (.string d.qualified) := by
  rw [at?_sortedObject (by simp)]
  rfl

theorem at?_dataSource (d : Dialect) :
    at? ["dataSource"] (sortedObject [("dialect", .string d.qualified),
      ("dataSource", .string d.dataSource)]) = some (.string d.dataSource) := by
  rw [at?_sortedObject (by simp)]
  rfl

/-- The names that stand for a class are those that are listed, and they stand for what is
listed. -/
structure ClassesListed : Prop where
  changed : ∀ name, resolveClassName name ≠ name ↔
    (listed? knownClassesText ["javaBuildInClasses", name]).isSome = true ∨
      (listed? knownClassesText ["jdbcDialects", name]).isSome = true
  java : ∀ name v, listed? knownClassesText ["javaBuildInClasses", name] = some v →
    v = .string (resolveClassName name)
  dialect : ∀ name, (listed? knownClassesText ["jdbcDialects", name]).isSome = true →
    listed? knownClassesText ["jdbcDialects", name, "dialect"] =
      some (.string (resolveClassName name))

/-- Resolving follows the listing: a listed name becomes its listed class, any other name is kept.
-/
theorem classes_listed : ClassesListed where
  changed name := by
    rw [listed?_java, listed?_dialect]
    rcases name_cases name with ⟨c, java, -, same, other⟩ | ⟨d, java, dialect, same, other⟩ |
      ⟨java, dialect, same⟩
    · simp [java, same, Ne.symm other]
    · simp [java, dialect, same, Ne.symm other, at?]
    · simp [java, dialect, same]
  java name v listed := by
    rw [listed?_java] at listed
    rcases name_cases name with ⟨c, java, -, same, -⟩ | ⟨d, java, -, -, -⟩ | ⟨java, -, -⟩
    · rw [java] at listed
      rw [same]
      exact (Option.some.inj listed).symm
    all_goals
      rw [java] at listed
      cases listed
  dialect name isListed := by
    rw [listed?_dialect] at isListed ⊢
    rcases name_cases name with ⟨c, -, dialect, -, -⟩ | ⟨d, -, dialect, same, -⟩ | ⟨-, dialect, -⟩
    · rw [dialect] at isListed
      cases isListed
    · rw [dialect, Option.bind_some, at?_dialect, same]
    · rw [dialect] at isListed
      cases isListed

/-! ## Dialects of stores -/

theorem listed?_dataSource {dialect className : String}
    (found : dataSourceClass? dialect = some className) :
    listed? knownClassesText ["jdbcDialects", dialect, "dataSource"] =
      some (.string className) := by
  obtain ⟨d, hit, rfl⟩ := Option.map_eq_some_iff.mp found
  rw [listed?_dialect, hit, Option.bind_some, at?_dataSource]

/-- A store that maps objects to tables in a dialect succeeds only if the dialect is listed, and
registers its bean with the listed data source. -/
theorem mappedStore_listed {f : StoreFactoryConfig} {settings : JdbcPojoStoreFactory}
    {dialect : String} {flag : Bool} (mapped : MapsTables f settings dialect)
    (accepted : (storeFactory (some f)).outcome = .ok flag) :
    ∃ beanId className,
      listed? knownClassesText ["jdbcDialects", dialect, "dataSource"] =
        some (.string className) ∧
      settings.dataSourceBean = some beanId ∧
      ∀ desk : Desk, (desk.run (storeFactory (some f))).registry =
        desk.registry.register ⟨beanId, className⟩ := by
  have calls : ∃ s, CallsFor f s := by
    have ending := storeFactory_ends (some f) (Desk.empty 0)
    generalize (Desk.empty 0).run (storeFactory (some f)) = after at ending
    rw [accepted] at ending
    cases ending with
    | unset unset =>
      rw [mapped.kind] at unset
      simp at unset
    | registered calls => exact ⟨_, calls⟩
    | written _ _ plain => exact absurd mapped (plain settings dialect)
  obtain ⟨s, calls⟩ := calls
  have ⟨_, _, otherMapped, known, bean, _⟩ := calls
  obtain ⟨rfl, rfl⟩ := mapped.unique otherMapped
  exact ⟨s.beanId, s.className, listed?_dataSource known, bean, fun desk =>
    ((storeFactory_ends (some f) desk).of_callsFor calls).2⟩

/-! ## Event groups -/

theorem listed_isSome_iff (name : String) :
    (listed? eventGroupsText [name]).isSome = true ↔ IsGroup name := by
  rw [listed?_eventGroups]
  rcases eventsOf?_cases name with ⟨g, known, rfl, events⟩ | ⟨unknown, none⟩
  · have isGroup : IsGroup g.name := List.mem_map_of_mem known
    simp [events, isGroup]
  · simp [none, unknown]

/-- The events that are listed for a group are those that it stands for. -/
theorem membersOf_listed {name : String} {events : List String}
    (listed : listed? eventGroupsText [name] = some (.array (events.map .string))) :
    Generation.membersOf name = events := by
  rw [listed?_eventGroups] at listed
  obtain ⟨found, hit, same⟩ := Option.map_eq_some_iff.mp listed
  have sameEvents : found = events :=
    List.map_injective_iff.mpr (fun _ _ same => Value.string.inj same) (Value.array.inj same)
  rw [Generation.membersOf, hit, sameEvents]
  rfl

/-- The event groups that are taken are those that are listed; one alone is referred to, and several
are written out with the listed events in order. -/
structure GroupsListed : Prop where
  accepted : ∀ names : List String, (eventTypes names).outcome = .ok () ↔
    ∀ name ∈ names, (listed? eventGroupsText [name]).isSome = true
  expanded : ∀ groups : List EventGroup,
    (∀ g ∈ groups, listed? eventGroupsText [g.name] = some (.array (g.events.map .string))) →
      ∀ desk : Desk,
        desk.newConstants (desk.run (eventTypes (groups.map EventGroup.name))) =
          (if groups.length = 1 then groups.map EventGroup.name
            else groups.flatMap EventGroup.events).map constantName

/-- Events follow the listing: a name is taken exactly if it is listed, and gives the listed events.
-/
theorem groups_listed : GroupsListed where
  accepted names := by
    have noneUnknown : ∀ unknown, resultOf unknown = .ok () ↔ unknown = [] := by
      intro unknown
      cases unknown <;> simp [resultOf]
    rw [(eventTypes_ends names (Desk.empty 0)).result_eq, noneUnknown, List.filter_eq_nil_iff]
    simp only [listed_isSome_iff, decide_eq_true_eq, not_not]
  expanded groups listed desk := by
    have known : ∀ name ∈ groups.map EventGroup.name, IsGroup name := by
      refine List.forall_mem_map.mpr fun g mem => (listed_isSome_iff g.name).mp ?_
      rw [listed g mem]
      rfl
    have events : (groups.map EventGroup.name).flatMap Generation.membersOf =
        groups.flatMap EventGroup.events := by
      rw [List.flatMap_map]
      exact List.flatMap_congr fun g mem => membersOf_listed (listed g mem)
    rw [(eventTypes_ends _ desk).constants known, events, List.length_map]

/-! ## The listings -/

/-- The listings say what a description can refer to: the kinds of each slot, the names of classes,
the dialects of stores and the event groups. -/
structure ListingsHold : Prop where
  discovery : Offers "discovery" .discovery (fun d => some d.kind) discovery finderProperty
  evictionPolicy : ∀ propertyName, Offers "evictionPolicy" .evictionPolicy
    EvictionPolicyConfig.kind (fun p => evictionPolicy (some p) propertyName)
    (slotProperty propertyName)
  storeFactory : Offers "cacheStoreFactory" .storeFactory StoreFactoryConfig.kind
    (fun f => storeFactory (some f)) (slotProperty "cacheStoreFactory")
  marshaller : Offers "marshaller" .marshaller MarshallerConfig.kind
    (fun m => marshaller (some m)) (slotProperty "marshaller")
  swapSpace : Offers "swapSpaceSpi" .swapSpace SwapSpaceSpiConfig.kind
    (fun s => swapSpace (some s)) (slotProperty "swapSpaceSpi")
  /-- No slot has a kind without a name. -/
  unnamed : ∀ s ∈ slotKinds, listed? knownClassesText ["variants", s.slot, ""] = none
  classes : ClassesListed
  dialects : ∀ (f : StoreFactoryConfig) (settings : JdbcPojoStoreFactory) (dialect : String)
    (flag : Bool), MapsTables f settings dialect →
      (Generation.storeFactory (some f)).outcome = .ok flag →
        ∃ beanId className,
          listed? knownClassesText ["jdbcDialects", dialect, "dataSource"] =
            some (.string className) ∧
          settings.dataSourceBean = some beanId ∧
          ∀ desk : Desk, (desk.run (Generation.storeFactory (some f))).registry =
            desk.registry.register ⟨beanId, className⟩
  groups : GroupsListed

/-- What the listings offer is what generation takes and writes, slot by slot, name by name, group
by group. -/
theorem listings_hold : ListingsHold where
  discovery := discovery_offers
  evictionPolicy := evictionPolicy_offers
  storeFactory := storeFactory_offers
  marshaller := marshaller_offers
  swapSpace := swapSpace_offers
  unnamed s slot := by
    have none : ∀ s ∈ slotKinds, s.kinds.find? (·.1 == "") = none := by decide
    rw [listed?_kind slot, none s slot]
    rfl
  classes := classes_listed
  dialects _ _ _ _ := mappedStore_listed
  groups := groups_listed

/-- A listed store in a listed dialect is written and registered; a policy that is not listed is
refused. -/
theorem mappedStore_as_listed :
    (∃ className,
      listed? knownClassesText ["variants", "cacheStoreFactory", "CacheJdbcPojoStoreFactory"] =
        some (.string className) ∧
      WritesBean (storeFactory (some (mappedStore "H2"))) (slotProperty "cacheStoreFactory")
        className) ∧
      (∃ className,
        listed? knownClassesText ["jdbcDialects", "H2", "dataSource"] = some (.string className) ∧
        ((Desk.empty 0).run (storeFactory (some (mappedStore "H2")))).registry =
          ⟨[⟨"ds", className⟩]⟩) ∧
      ¬ (listed? knownClassesText ["variants", "evictionPolicy", "MRU"]).isSome = true := by
  have accepted : (storeFactory (some (mappedStore "H2"))).outcome = .ok true := by decide
  have refused : (evictionPolicy (some ⟨some "MRU", none, none, none, none⟩)
      "evictionPolicy").outcome = .error (.unknownKind .evictionPolicy "MRU") := by decide
  have written := listings_hold.storeFactory.written (mappedStore "H2")
    "CacheJdbcPojoStoreFactory" true rfl (by decide) accepted
  obtain ⟨beanId, className, listed, bean, registers⟩ := listings_hold.dialects
    (mappedStore "H2") ⟨some "ds", some "H2"⟩ "H2" true ⟨rfl, rfl, rfl, by decide⟩ accepted
  obtain rfl : "ds" = beanId := Option.some.inj bean
  have policies := (listings_hold.evictionPolicy "evictionPolicy").accepted
    ⟨some "MRU", none, none, none, none⟩ "MRU" rfl (by decide)
  exact ⟨written, ⟨className, listed, registers (Desk.empty 0)⟩, fun isListed =>
    policies.mp isListed refused⟩

end GridBeans.Reference
