import GridBeans.Proofs.Generation.Outline

/-!
# Tidy outlines

Every outline is tidy, so blank lines stand only inside elements, and no element of an outline has
an id. Each outline is made of properties and beans around others, so it is enough to see that those
are tidy around what is tidy.
-/
namespace GridBeans.Markup

/-- None of the attributes is an id. -/
def Piece.Anonymous (p : Piece) : Prop :=
  ∀ a ∈ p.attributes, a.name ≠ "id"

theorem anonymous_endTag (element : String) : (Piece.endTag element).Anonymous :=
  List.forall_mem_nil _

theorem anonymous_comment (text : String) : (Piece.comment text).Anonymous :=
  List.forall_mem_nil _

/-- An element without attributes around tidy lines. -/
theorem Tidy.container {inside : List Line} (container : String)
    (tidy : Tidy Piece.Anonymous inside) :
    Tidy Piece.Anonymous (elementLines container [] inside) :=
  .inside (List.forall_mem_nil _) (anonymous_endTag container) tidy

theorem Tidy.ite {Q : Piece → Prop} {lines others : List Line} (condition : Prop)
    [Decidable condition] (first : Tidy Q lines) (second : Tidy Q others) :
    Tidy Q (if condition then lines else others) := by
  split
  · exact first
  · exact second

end GridBeans.Markup

namespace GridBeans.Generation

open GridBeans.Markup GridBeans.Config GridBeans.Catalogue GridBeans.Json

/-! ## Properties and beans -/

theorem anonymous_propertyTag (name : String) (value : AttributeValue) :
    (propertyTag name value).Anonymous := by
  simp [Piece.Anonymous, Piece.attributes, propertyTag, writtenAttr]

theorem anonymous_beanTag (className : AttributeValue) : (beanTag className).Anonymous := by
  simp [Piece.Anonymous, Piece.attributes, beanTag]

theorem anonymous_constantTag (className name : String) :
    (constantTag className name).Anonymous := by
  simp [Piece.Anonymous, Piece.attributes, constantTag, attr]

section

variable {inside : List Line}

theorem propertyAround_tidy (name : String) (tidy : Tidy Piece.Anonymous inside) :
    Tidy Piece.Anonymous (propertyAround name inside) :=
  .inside (by simp [Piece.Anonymous, Piece.attributes, writtenAttr]) (anonymous_endTag _) tidy

theorem beanAround_tidy (className : String) (tidy : Tidy Piece.Anonymous inside) :
    Tidy Piece.Anonymous (beanAround className inside) :=
  .inside (by simp [Piece.Anonymous, Piece.attributes, writtenAttr]) (anonymous_endTag _) tidy

/-- A bean around groups, each of which is tidy. -/
theorem beanAround_spaced_tidy (className : String) {groups : List (List Line)}
    (each : ∀ group ∈ groups, Tidy Piece.Anonymous group) :
    Tidy Piece.Anonymous (beanAround className (spaced groups)) :=
  .around (by simp [Piece.Anonymous, Piece.attributes, writtenAttr]) (anonymous_endTag _) each

theorem entryAround_tidy (key : String) (tidy : Tidy Piece.Anonymous inside) :
    Tidy Piece.Anonymous (elementLines "entry" [attr "key" key] inside) :=
  .inside (by simp [Piece.Anonymous, Piece.attributes, attr]) (anonymous_endTag _) tidy

theorem containerLines_tidy (name container : String) (tidy : Tidy Piece.Anonymous inside) :
    Tidy Piece.Anonymous (containerLines name container inside) :=
  .ite _ .nil (propertyAround_tidy name (tidy.container container))

end

theorem bareBean_tidy (className : String) : Tidy Piece.Anonymous (bareBean className) :=
  .single (anonymous_beanTag _) trivial

/-- A property is tidy and has no id, with a value or without one. -/
theorem propertyLines_tidy {α : Type} [PropertyValue α] (name : String) (value : Option α) :
    Tidy Piece.Anonymous (propertyLines name value) := by
  refine .pieces fun p mem => ?_
  obtain ⟨a, -, rfl⟩ := List.mem_map.mp mem
  exact ⟨anonymous_propertyTag _ _, trivial⟩

/-- Rows in a container, each of them without an id and with no element open behind it. -/
theorem rows_tidy {α : Type} (name container : String) (items : List α) {row : α → Piece}
    (anonymous : ∀ a, (row a).Anonymous ∧ (row a).Closed) :
    Tidy Piece.Anonymous (containerLines name container (pieceLines (items.map row))) := by
  refine containerLines_tidy name container (.pieces fun p mem => ?_)
  obtain ⟨a, -, rfl⟩ := List.mem_map.mp mem
  exact anonymous a

theorem listLines_tidy (name container : String) (items : List String) :
    Tidy Piece.Anonymous (listLines name container items) :=
  rows_tidy name container items fun _ => ⟨List.forall_mem_nil _, trivial⟩

/-! ## Beans of a shape -/

theorem valueLines_tidy (f : FieldShape) (v : Value) : Tidy Piece.Anonymous (f.valueLines v) := by
  unfold FieldShape.valueLines
  cases f.kind with
  | scalar => exact propertyLines_tidy _ _
  | list => exact listLines_tidy _ _ _
  | classNameRef =>
    cases v with
    | string name =>
      exact .ite _ .nil (propertyAround_tidy _ (.single (anonymous_beanTag _) trivial))
    | null | bool | number | array | object => exact .nil
  | propertyBag =>
    refine rows_tidy _ _ _ fun entry => ⟨?_, trivial⟩
    simp [Piece.Anonymous, Piece.attributes, bagLeaf, attr]

/-- The bean of a shape is tidy and has no id anywhere in it. -/
theorem shapedLines_tidy (name : String) (shape : BeanShape) (members : List (String × Value))
    (force : Bool) : Tidy Piece.Anonymous (shapedLines name shape members force) := by
  have field : ∀ f : FieldShape, Tidy Piece.Anonymous (f.lines members) := fun f =>
    .ite _ (.flatMap fun v _ => valueLines_tidy f v) .nil
  refine .ite _ (propertyAround_tidy name (beanAround_tidy _ (.flatMap fun f _ => field f))) ?_
  exact .ite _ (propertyAround_tidy name (bareBean_tidy _)) .nil

theorem chosenLines_tidy {κ : Type} (kind : Option String) (ofName : String → Except Failure κ)
    {lines : κ → List Line} (each : ∀ k, Tidy Piece.Anonymous (lines k)) :
    Tidy Piece.Anonymous (chosenLines kind ofName lines) := by
  unfold chosenLines
  split
  · exact .nil
  · split
    · exact each _
    · exact .nil

theorem evictionLines_tidy (policy : Option EvictionPolicyConfig) (name : String) :
    Tidy Piece.Anonymous (evictionLines policy name) :=
  .flatMap fun _ _ => chosenLines_tidy _ _ fun _ => shapedLines_tidy _ _ _ _

theorem storeLines_tidy (factory : Option StoreFactoryConfig) :
    Tidy Piece.Anonymous (storeLines factory) :=
  .flatMap fun _ _ => chosenLines_tidy _ _ fun _ => shapedLines_tidy _ _ _ _

theorem marshallerLines_tidy (config : Option MarshallerConfig) :
    Tidy Piece.Anonymous (marshallerLines config) :=
  .flatMap fun _ _ => chosenLines_tidy _ _ fun _ => shapedLines_tidy _ _ _ _

theorem swapSpaceLines_tidy (config : Option SwapSpaceSpiConfig) :
    Tidy Piece.Anonymous (swapSpaceLines config) :=
  .flatMap fun _ _ => .ite _ (shapedLines_tidy _ _ _ _) .nil

/-! ## Discovery and event types -/

theorem finderLines_tidy (finder : IpFinder) : Tidy Piece.Anonymous (finderLines finder) := by
  cases finder with
  | multicast m =>
    apply beanAround_tidy
    repeat' apply Tidy.append
    all_goals exact propertyLines_tidy _ _
  | vm v => exact .ite _ (bareBean_tidy _) (beanAround_tidy _ (listLines_tidy _ _ _))
  | s3 s => exact beanAround_tidy _ (propertyLines_tidy _ _)
  | cloud c =>
    apply beanAround_tidy
    repeat' apply Tidy.append
    all_goals first | exact propertyLines_tidy _ _ | exact listLines_tidy _ _ _
  | googleStorage g =>
    apply beanAround_tidy
    repeat' apply Tidy.append
    all_goals exact propertyLines_tidy _ _
  | jdbc j => exact beanAround_tidy _ (propertyLines_tidy _ _)
  | sharedFs f =>
    simp only [finderLines]
    cases Text.nonEmpty? f.path with
    | some path => exact beanAround_tidy _ (propertyLines_tidy _ _)
    | none => exact bareBean_tidy _

theorem discoveryLines_tidy (config : Option DiscoveryConfig) :
    Tidy Piece.Anonymous (discoveryLines config) := by
  refine .flatMap fun d _ => ?_
  split
  · exact propertyAround_tidy _ (beanAround_tidy _ (propertyAround_tidy _ (finderLines_tidy _)))
  · exact .nil

theorem groupEventLines_tidy (g : EventGroup) : Tidy Piece.Anonymous (groupEventLines g) := by
  refine .pieces (List.forall_mem_cons.mpr ⟨⟨anonymous_comment _, trivial⟩, fun p mem => ?_⟩)
  obtain ⟨name, -, rfl⟩ := List.mem_map.mp mem
  exact ⟨anonymous_constantTag _ _, trivial⟩

theorem eventGroupLines_tidy (groups : List EventGroup) :
    Tidy Piece.Anonymous (eventGroupLines groups) := by
  unfold eventGroupLines
  split
  · exact .single (anonymous_constantTag _ _) trivial
  · refine .around (List.forall_mem_nil _) (anonymous_endTag _) fun lines mem => ?_
    obtain ⟨g, -, rfl⟩ := List.mem_map.mp mem
    exact groupEventLines_tidy g

theorem eventLines_tidy (names : List String) : Tidy Piece.Anonymous (eventLines names) := by
  refine .ite _ .nil ?_
  split
  · exact propertyAround_tidy _ (eventGroupLines_tidy _)
  · exact .nil

/-! ## Type entries -/

theorem databaseFieldLines_tidy (f : DatabaseField) :
    Tidy Piece.Anonymous (databaseFieldLines f) := by
  have constant : Tidy Piece.Anonymous
      (pieceLines [constantTag "java.sql.Types" f.databaseType]) :=
    .single (anonymous_constantTag _ _) trivial
  refine beanAround_tidy _ (.append (.append (.append ?_ (propertyAround_tidy _ constant)) ?_) ?_)
  all_goals exact propertyLines_tidy _ _

theorem databaseFieldsLines_tidy (name : String) (fields : List DatabaseField) :
    Tidy Piece.Anonymous (databaseFieldsLines name fields) :=
  containerLines_tidy _ _ (.flatMap fun f _ => databaseFieldLines_tidy f)

theorem queryFieldsLines_tidy (name : String) (fields : List QueryField) :
    Tidy Piece.Anonymous (queryFieldsLines name fields) := by
  refine rows_tidy _ _ _ fun f => ⟨?_, trivial⟩
  simp [Piece.Anonymous, Piece.attributes, attr]

theorem groupFieldLines_tidy (f : GroupField) : Tidy Piece.Anonymous (groupFieldLines f) := by
  refine entryAround_tidy _ (beanAround_tidy _ (.pieces ?_))
  simp [Piece.Anonymous, Piece.attributes, attr, Piece.Closed]

theorem fieldGroupLines_tidy (g : FieldGroup) : Tidy Piece.Anonymous (fieldGroupLines g) :=
  entryAround_tidy _ (Tidy.container "map" (.flatMap fun f _ => groupFieldLines_tidy f))

theorem databaseSideLines_tidy (t : TypeMetadata) :
    Tidy Piece.Anonymous (databaseSideLines t) := by
  refine .append (.append (.append ?_ ?_) (.ite _ ?_ .nil)) ?_
  · exact propertyLines_tidy _ _
  · exact propertyLines_tidy _ _
  · exact databaseFieldsLines_tidy _ _
  · exact databaseFieldsLines_tidy _ _

theorem querySideLines_tidy (t : TypeMetadata) : Tidy Piece.Anonymous (querySideLines t) := by
  refine .append (.append (.append (.append ?_ ?_) ?_) ?_) ?_
  · exact queryFieldsLines_tidy _ _
  · exact queryFieldsLines_tidy _ _
  · exact queryFieldsLines_tidy _ _
  · exact listLines_tidy _ _ _
  · exact containerLines_tidy _ _ (.flatMap fun g _ => fieldGroupLines_tidy g)

theorem typeEntryLines_tidy (t : TypeMetadata) : Tidy Piece.Anonymous (typeEntryLines t) := by
  refine beanAround_tidy _ (.append (.append (.append ?_ ?_) (.ite _ ?_ .nil)) (.ite _ ?_ .nil))
  · exact propertyLines_tidy _ _
  · exact propertyLines_tidy _ _
  · exact databaseSideLines_tidy t
  · exact querySideLines_tidy t

theorem typeEntriesLines_tidy (query store : List TypeMetadata) :
    Tidy Piece.Anonymous (typeEntriesLines query store) :=
  containerLines_tidy _ _ (.flatMap fun t _ => typeEntryLines_tidy t)

/-! ## Caches -/

theorem nearLines_tidy (n : NearCacheConfig) : Tidy Piece.Anonymous (nearLines n) :=
  .append (propertyLines_tidy _ _) (evictionLines_tidy _ _)

/-- The bean of a near cache that is inside another bean. -/
theorem nearBeanLines_tidy (near : Option NearCacheConfig) :
    Tidy Piece.Anonymous (nearBeanLines none near) :=
  beanAround_tidy _ (.flatMap fun n _ => nearLines_tidy n)

theorem cacheNearLines_tidy (c : CacheConfig) : Tidy Piece.Anonymous (cacheNearLines c) :=
  .ite _ (propertyAround_tidy _ (nearBeanLines_tidy _)) .nil

/-- Every group of a cache is tidy, so blank lines at its own level come from the groups around it.
-/
theorem cacheGroups_tidy (c : CacheConfig) :
    ∀ group ∈ cacheGroups c, Tidy Piece.Anonymous group := by
  have entries := typeEntriesLines_tidy c.queryMetadata c.storeMetadata
  simp only [cacheGroups, List.forall_mem_cons, List.not_mem_nil, false_implies, implies_true,
    and_true]
  refine ⟨?_, ?_, ?_, evictionLines_tidy _ _, cacheNearLines_tidy c, ?_, .ite _ .nil ?_,
    storeLines_tidy _, ?_, ?_, ?_, ?_, .append ?_ entries⟩
  all_goals repeat' apply Tidy.append
  all_goals first
    | exact propertyLines_tidy _ _
    | exact listLines_tidy _ _ _
    | exact .ite _ (propertyLines_tidy _ _) .nil

theorem cacheLines_tidy (c : CacheConfig) : Tidy Piece.Anonymous (cacheLines c) :=
  beanAround_spaced_tidy _ (cacheGroups_tidy c)

/-! ## Nodes -/

theorem cachesLines_tidy (caches : List CacheConfig) :
    Tidy Piece.Anonymous (cachesLines caches) := by
  refine .ite _ .nil (propertyAround_tidy _ ?_)
  refine .around (List.forall_mem_nil _) (anonymous_endTag _) fun lines mem => ?_
  obtain ⟨c, -, rfl⟩ := List.mem_map.mp mem
  exact cacheLines_tidy c

/-- Every group of a node is tidy, the list of its caches with the blank lines between them
included. -/
theorem nodeGroups_tidy (c : ClusterConfig) (client : Bool) :
    ∀ group ∈ clientModeLines client :: nodeGroups c, Tidy Piece.Anonymous group := by
  simp only [nodeGroups, List.forall_mem_cons, List.not_mem_nil, false_implies, implies_true,
    and_true]
  refine ⟨.ite _ (propertyLines_tidy _ _) .nil, discoveryLines_tidy _, shapedLines_tidy _ _ _ _,
    ?_, ?_, eventLines_tidy _, marshallerLines_tidy _, ?_, ?_, ?_, swapSpaceLines_tidy _, ?_, ?_,
    shapedLines_tidy _ _ _ _, cachesLines_tidy _⟩
  all_goals repeat' apply Tidy.append
  all_goals first
    | exact propertyLines_tidy _ _
    | exact listLines_tidy _ _ _

theorem nodeLines_tidy (c : ClusterConfig) (client : Bool) :
    Tidy Piece.Anonymous (nodeLines c client) :=
  beanAround_spaced_tidy _ (nodeGroups_tidy c client)

end GridBeans.Generation
