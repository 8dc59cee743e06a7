import GridBeans.Proofs.Generation.Beans
import GridBeans.Proofs.Generation.Groups

/-!
# Ids of beans

The beans of a document that have an id are the one that loads the properties file, those of the
data sources, and the near cache of a client. A data source is declared once, so two of these beans
have one id exactly if a cache refers to a data source by the id that one of the other two has.
-/
namespace GridBeans.Xml

mutual

/-- The ids of all elements in a tree, in the order of the document. -/
def Node.ids : Node → List String
  | .element _ attributes children =>
    (attributes.filter fun a => a.1 = "id").map Prod.snd ++ idsOf children
  | .text _ => []

def idsOf : List Node → List String
  | [] => []
  | node :: rest => node.ids ++ idsOf rest

end

/-- Ids are collected in the order of the document, so those of two parts follow each other. -/
theorem idsOf_append (front back : List Node) :
    idsOf (front ++ back) = idsOf front ++ idsOf back := by
  induction front with
  | nil => rfl
  | cons node rest ih => rw [List.cons_append, idsOf, idsOf, ih, List.append_assoc]

theorem idsOf_map {α : Type} (items : List α) (node : α → Node) {id : α → String}
    (each : ∀ a, (node a).ids = [id a]) : idsOf (items.map node) = items.map id := by
  induction items with
  | nil => rfl
  | cons a rest ih =>
    rw [List.map_cons, List.map_cons, idsOf, each, ih]
    rfl

end GridBeans.Xml

namespace GridBeans.Markup

open GridBeans.Xml

def Piece.ids (p : Piece) : List String :=
  (p.attributes.filter fun a => a.name = "id").map (·.value.text)

theorem Piece.Anonymous.ids {p : Piece} (anonymous : p.Anonymous) : p.ids = [] := by
  have none : p.attributes.filter (fun a => a.name = "id") = [] :=
    List.filter_eq_nil_iff.mpr fun a mem => by simpa using anonymous a mem
  rw [Piece.ids, none, List.map_nil]

theorem stated_ids (attributes : List Attribute) :
    ((attributes.map Attribute.stated).filter fun a => a.1 = "id").map Prod.snd =
      (attributes.filter fun a => a.name = "id").map (·.value.text) := by
  rw [List.filter_map, List.map_map]
  rfl

/-- The ids in the nodes of whole pieces are those of the pieces, in the same order. -/
theorem Whole.ids {pieces : List Piece} (whole : Whole pieces) :
    idsOf (forest pieces) = pieces.flatMap Piece.ids := by
  induction whole with
  | nil => rfl
  | emptyTag element attributes =>
    simp [forest, Piece.grow, idsOf, Node.ids, stated_ids, Piece.ids, Piece.attributes]
  | leaf element attributes text =>
    simp [forest, Piece.grow, idsOf, Node.ids, stated_ids, Piece.ids, Piece.attributes]
  | comment text => rfl
  | element name attributes wholeInner ih =>
    rw [forest_element name attributes wholeInner, idsOf, Node.ids, stated_ids, ih]
    simp [idsOf, Piece.ids, Piece.attributes]
  | append wholeFront _ first second =>
    rw [forest_append wholeFront, idsOf_append, first, second, List.flatMap_append]

/-- There are no ids on tidy lines, whose pieces are all without one. -/
theorem Tidy.ids {lines : List Line} (tidy : Tidy Piece.Anonymous lines) :
    (lines.filterMap Line.piece?).flatMap Piece.ids = [] :=
  List.flatMap_eq_nil_iff.mpr fun p mem => (tidy.every p mem).ids

/-- The ids of an element on lines are its own, then those inside it. -/
theorem ids_elementLines (element : String) (attributes : List Attribute) (inside : List Line) :
    ((elementLines element attributes inside).filterMap Line.piece?).flatMap Piece.ids =
      (Piece.startTag element attributes).ids ++
        (inside.filterMap Line.piece?).flatMap Piece.ids := by
  have stop : (Piece.endTag element).ids = [] := (anonymous_endTag element).ids
  rw [filterMap_piece?_elementLines, List.flatMap_cons, List.flatMap_append,
    List.flatMap_singleton, stop, List.append_nil]

end GridBeans.Markup

namespace GridBeans.Generation

open GridBeans.Xml GridBeans.Markup GridBeans.Config

/-! ## The ids of each part -/

/-- The bean of a data source has its bean id, and there is no other id inside. -/
theorem ids_sourceNode (s : DataSource) : (sourceNode s).ids = [s.beanId] := by
  simp [sourceNode, credentialKeys, propertyNode, Node.ids, idsOf]

/-- Ahead of the node there are no ids without data sources; else that of the loader, then those of
the sources. -/
theorem ids_preambleNodes (options : DocumentOptions) (sources : List DataSource) :
    idsOf (preambleNodes options sources) =
      if sources = [] then [] else "placeholderConfig" :: sources.map DataSource.beanId := by
  cases sources with
  | nil => rfl
  | cons s rest =>
    have loader : (loaderNode options).ids = ["placeholderConfig"] := by
      simp [loaderNode, propertyNode, Node.ids, idsOf]
    have beans := idsOf_map (s :: rest) sourceNode ids_sourceNode
    rw [preambleNodes, if_neg (by simp), if_neg (List.cons_ne_nil s rest), idsOf, loader, beans]
    rfl

/-- The near cache of a client brings its one fixed id; without a client there is none. -/
theorem ids_clientNearLines (clientNear : Option NearCacheConfig) :
    ((clientNearLines clientNear).filterMap Line.piece?).flatMap Piece.ids =
      clientNear.toList.map fun _ => nearCacheId := by
  cases clientNear with
  | none => rfl
  | some near =>
    have pieces : (clientNearLines (some near)).filterMap Line.piece? =
        (nearBeanLines (some nearCacheId) (some near)).filterMap Line.piece? := by
      rw [clientNearLines, Option.toList_some, List.flatMap_singleton, List.filterMap_append]
      exact List.append_nil _
    rw [pieces, nearBeanLines, ids_elementLines, Option.toList_some, Option.toList_some,
      List.flatMap_singleton, (nearLines_tidy near).ids]
    rfl

/-- Among the beans of a node only the near cache of a client has an id: caches and their parts have
none. -/
theorem ids_nodeBeans {c : ClusterConfig} {clientNear : Option NearCacheConfig}
    (succeeds : (nodeBeans c clientNear).failure? = none) :
    (nodeBeans c clientNear).pieces.flatMap Piece.ids =
      clientNear.toList.map fun _ => nearCacheId := by
  -- The pieces are those of the outline, in which only the near cache of a client has an id.
  have node := (nodeLines_tidy c clientNear.isSome).ids
  rw [pieces_nodeBeans succeeds, List.filterMap_append, List.flatMap_append, ids_clientNearLines,
    node, List.append_nil]

/-! ## Documents -/

/-- The ids in a generated document: those of its preamble, then that of the near cache. -/
theorem ids_clusterTree {c : ClusterConfig} {clientNear : Option NearCacheConfig}
    (options : DocumentOptions) (fine : faults c clientNear = []) :
    (clusterTree c clientNear options).ids =
      (if references c.caches = [] then []
        else "placeholderConfig" :: (firstById (references c.caches)).map DataSource.beanId) ++
        clientNear.toList.map fun _ => nearCacheId := by
  have succeeds : (nodeBeans c clientNear).failure? = none := by
    rw [failure?_nodeBeans, fine, List.head?_nil]
  obtain ⟨u, result⟩ := (Script.exists_outcome_ok_iff _).mpr succeeds
  have body : (nodeBeans c clientNear).Proper fun _ => True :=
    nodeBeans_proper (spelled_everything c) (spelled_everything clientNear)
  obtain ⟨whole, ahead⟩ := forest_preamble options (firstById (references c.caches))
  have root : (rootAttributes.map Attribute.stated).filter (fun a => a.1 = "id") = [] := by
    simp [rootAttributes, writtenAttr, Attribute.stated]
  rw [clusterTree, Node.ids, root, List.map_nil, List.nil_append, documentPieces,
    registered_nodeBeans fine, forest_append whole, idsOf_append, ahead, ids_preambleNodes,
    (body.whole u result).ids, ids_nodeBeans succeeds]
  simp only [firstById_eq_nil_iff]

/-- The ids are distinct unless a cache refers to a data source by the id of the bean that loads the
properties file, or by that of the near cache of a client where there is one. -/
theorem ids_nodup_iff (c : ClusterConfig) (clientNear : Option NearCacheConfig) :
    ((if references c.caches = [] then []
        else "placeholderConfig" :: (firstById (references c.caches)).map DataSource.beanId) ++
        clientNear.toList.map fun _ => nearCacheId).Nodup ↔
      ∀ s ∈ references c.caches, s.beanId ≠ "placeholderConfig" ∧
        (clientNear.isSome → s.beanId ≠ nearCacheId) := by
  have distinct := firstById_distinct (references c.caches)
  have avoids : ∀ id, id ∉ (firstById (references c.caches)).map DataSource.beanId ↔
      ∀ s ∈ references c.caches, s.beanId ≠ id := by
    intro id
    rw [mem_ids_firstById, List.mem_map, not_exists]
    simp only [not_and, ne_eq]
  split
  · rename_i none
    rw [none, List.nil_append]
    cases clientNear with
    | none => simp
    | some near => simp
  · cases clientNear with
    | none =>
      rw [Option.toList_none, List.map_nil, List.append_nil, List.nodup_cons, avoids]
      simp [distinct]
    | some near =>
      have different : "placeholderConfig" ≠ nearCacheId := by decide
      rw [Option.toList_some, List.map_cons, List.map_nil, List.cons_append, List.nodup_cons,
        List.mem_append, not_or, List.mem_singleton, List.nodup_append',
        List.disjoint_singleton, avoids, avoids]
      simp only [different, not_false_eq_true, and_true, distinct, List.nodup_singleton, true_and,
        Option.isSome_some, forall_const]
      exact ⟨fun apart s mem => ⟨apart.1 s mem, apart.2 s mem⟩,
        fun apart => ⟨fun s mem => (apart s mem).1, fun s mem => (apart s mem).2⟩⟩

/-- Reading a generated document gives a tree whose ids are those of the bean that loads the
properties file and of the data sources, if there are any, and of the near cache of a client, if
there is one. They are distinct exactly if no cache refers to a data source by the id of one of the
other two beans. -/
theorem generated_ids_distinct_iff (c : ClusterConfig) (clientNear : Option NearCacheConfig)
    (options : DocumentOptions) (text : String)
    (generated : clusterDocument c clientNear options = .ok text) :
    ∃ root, readDocument text = some root ∧
      root.ids = (if references c.caches = [] then []
        else "placeholderConfig" :: (firstById (references c.caches)).map DataSource.beanId) ++
        (clientNear.toList.map fun _ => nearCacheId) ∧
      (root.ids.Nodup ↔ ∀ s ∈ references c.caches, s.beanId ≠ "placeholderConfig" ∧
        (clientNear.isSome → s.beanId ≠ nearCacheId)) := by
  have ids := ids_clusterTree options ((clusterDocument_ok_iff c clientNear options).mp
    ⟨text, generated⟩)
  refine ⟨clusterTree c clientNear options, clusterDocument_reads generated, ids, ?_⟩
  rw [ids]
  exact ids_nodup_iff c clientNear

/-- A document with ids of all three origins, read back: the loader, two data sources and the near
cache. -/
theorem sharingCluster_ids_distinct :
    ∃ text root, clusterDocument sharingCluster (some unsetNear) .default = .ok text ∧
      readDocument text = some root ∧
      root.ids = ["placeholderConfig", "a&\"b<", "dsOracle", "nearCacheBean"] ∧
      root.ids.Nodup := by
  obtain ⟨text, generated⟩ := (clusterDocument_ok_iff sharingCluster (some unsetNear) .default).mpr
    faults_sharingCluster
  obtain ⟨root, reads, ids, distinct⟩ :=
    generated_ids_distinct_iff sharingCluster (some unsetNear) .default text generated
  have others : ∀ s ∈ references sharingCluster.caches, s.beanId ≠ "placeholderConfig" ∧
      ((some unsetNear).isSome → s.beanId ≠ nearCacheId) := by decide
  refine ⟨text, root, generated, reads, ?_, distinct.mpr others⟩
  rw [ids]
  decide

/-- A cluster with a cache that refers to a data source by the id of the bean that loads the
properties file. -/
def loaderCluster : ClusterConfig :=
  { ClusterConfig.unset with caches := [.stored "placeholderConfig" "H2"] }

/-- The ids of a document need not be distinct: a data source can have that of the loader. -/
theorem generated_ids_not_distinct :
    ¬ ∀ (c : ClusterConfig) (clientNear : Option NearCacheConfig) (options : DocumentOptions)
        (text : String) (root : Node), clusterDocument c clientNear options = .ok text →
      readDocument text = some root → root.ids.Nodup := by
  intro always
  have fine : faults loaderCluster none = [] := by decide
  obtain ⟨text, generated⟩ := (clusterDocument_ok_iff loaderCluster none .default).mpr fine
  have distinct := always loaderCluster none .default text _ generated
    (clusterDocument_reads generated)
  rw [ids_clusterTree .default fine] at distinct
  exact absurd distinct (by decide)

end GridBeans.Generation
