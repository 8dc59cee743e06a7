import GridBeans.Proofs.Generation.ReadBack
import GridBeans.Proofs.Generation.Sources

/-!
# Beans of a document

What a reader of a document finds in its root element: first, if any data source is declared, the
bean that loads the properties file and a bean for each data source, then the near cache of a client
and the node. The keys of a data source in the properties file are stated once, and its bean refers
to exactly those.
-/
namespace GridBeans.Generation

open GridBeans.Xml GridBeans.Markup GridBeans.Config

/-! ## Beans as a reader sees them -/

/-- The keys under which the properties file has the credentials of a data source. -/
def credentialKeys (s : DataSource) : List String :=
  [s.beanId ++ ".jdbc.url", s.beanId ++ ".jdbc.username", s.beanId ++ ".jdbc.password"]

/-- A value that stands for that of a key in the properties file. -/
def referenceTo (key : String) : String :=
  "$\x7b" ++ key ++ "\x7d"

def propertyNode (name value : String) : Node :=
  .element "property" [("name", name), ("value", value)] []

def sourceNode (s : DataSource) : Node :=
  .element "bean" [("id", s.beanId), ("class", s.className)]
    (List.zipWith propertyNode ["URL", "user", "password"] ((credentialKeys s).map referenceTo))

def loaderNode (options : DocumentOptions) : Node :=
  .element "bean" [("id", "placeholderConfig"), ("class", placeholderClass)]
    [propertyNode "location" options.propertiesLocation]

def preambleNodes (options : DocumentOptions) (sources : List DataSource) : List Node :=
  if sources.isEmpty then [] else loaderNode options :: sources.map sourceNode

def nearNode (n : NearCacheConfig) : Node :=
  .element "bean" [("id", nearCacheId), ("class", nearCacheClass)]
    (forest (nearProperties n).pieces)

/-- The near cache of a client, if there is one, and the node. -/
def nodeNodes (c : ClusterConfig) (clientNear : Option NearCacheConfig) : List Node :=
  clientNear.toList.map nearNode ++
    [.element "bean" [("class", nodeClass)] (forest (nodeProperties c clientNear.isSome).pieces)]

def documentNode (beans : List Node) : Node :=
  .element "beans" (rootAttributes.map Attribute.stated) beans

def attribute? (name : String) : Node → Option String
  | .element _ attributes _ => (attributes.find? fun a => a.1 = name).map Prod.snd
  | .text _ => none

/-! ## The preamble -/

theorem whole_dataSourceBean (s : DataSource) : Whole (dataSourceBean s).pieces :=
  .element "bean" _ (.append (.emptyTag "property" _)
    (.append (.emptyTag "property" _) (.emptyTag "property" _)))

/-- The references in the bean of a data source are those to its keys. -/
theorem placeholders_eq (s : DataSource) :
    ["url", "username", "password"].map (placeholder s.beanId) =
      (credentialKeys s).map referenceTo := by
  simp [placeholder, referenceTo, credentialKeys, String.append_assoc]

/-- The bean of a data source is one element around the references to its three keys. -/
theorem forest_dataSourceBean (s : DataSource) :
    forest (dataSourceBean s).pieces = [sourceNode s] := by
  rw [sourceNode, ← placeholders_eq]
  rfl

theorem forest_dataSourceBeans (sources : List DataSource) :
    Whole (sources.flatMap fun s => (dataSourceBean s).pieces) ∧
      forest (sources.flatMap fun s => (dataSourceBean s).pieces) = sources.map sourceNode := by
  induction sources with
  | nil => exact ⟨.nil, rfl⟩
  | cons s rest ih =>
    obtain ⟨whole, same⟩ := ih
    have first := whole_dataSourceBean s
    rw [List.flatMap_cons, forest_append first, forest_dataSourceBean, same]
    exact ⟨first.append whole, rfl⟩

/-- The preamble is the loader and then the data sources in order, or nothing where there are none.
-/
theorem forest_preamble (options : DocumentOptions) (sources : List DataSource) :
    Whole (preamble options sources).pieces ∧
      forest (preamble options sources).pieces = preambleNodes options sources := by
  rw [preamble, preambleNodes]
  split
  · exact ⟨.nil, rfl⟩
  · obtain ⟨whole, same⟩ := forest_dataSourceBeans sources
    have loader : Whole (Script.block "bean"
        [writtenAttr "id" "placeholderConfig", writtenAttr "class" placeholderClass]
        (property "location" (some options.propertiesLocation))).pieces :=
      .element "bean" _ (.emptyTag "property" _)
    have comment : ∀ text : String, Whole (Script.line (.comment text)).pieces := .comment
    simp only [Script.pieces_next, Script.failure?_line, Script.failure?_block,
      failure?_property, Script.failure?_blank, if_true,
      Script.pieces_forEach failure?_dataSourceBean]
    refine ⟨(comment _).append (loader.append (.append .nil ((comment _).append whole))), ?_⟩
    rw [forest_append (comment _), forest_append loader]
    show _ ++ (_ ++ forest ((Script.line (.comment _)).pieces ++ _)) = _
    rw [forest_append (comment _), same]
    rfl

/-- A document has no preamble exactly if it declares no data source. -/
theorem preambleNodes_eq_nil (options : DocumentOptions) (sources : List DataSource) :
    preambleNodes options sources = [] ↔ sources = [] := by
  cases sources with
  | nil => simp [preambleNodes]
  | cons s rest => simp [preambleNodes]

/-! ## The node -/

/-- A proper script that succeeds writes whole pieces, and so does a block around it. -/
theorem forest_block (element : String) (attributes : List Attribute) {body : Script Unit}
    (proper : body.Proper fun _ => True) (succeeds : body.failure? = none) :
    Whole (Script.block element attributes body).pieces ∧
      forest (Script.block element attributes body).pieces =
        [.element element (attributes.map Attribute.stated) (forest body.pieces)] := by
  obtain ⟨u, result⟩ := body.exists_outcome_ok_iff.mpr succeeds
  have whole := proper.whole u result
  rw [Script.pieces_block, result]
  exact ⟨.element element attributes whole, forest_element element attributes whole⟩

/-- The near cache of a client is one element, and is written for a client only. -/
theorem forest_clientNearBean {clientNear : Option NearCacheConfig}
    (succeeds : (clientNearBean clientNear).failure? = none) :
    Whole (clientNearBean clientNear).pieces ∧
      forest (clientNearBean clientNear).pieces = clientNear.toList.map nearNode := by
  cases clientNear with
  | none => exact ⟨.nil, rfl⟩
  | some n =>
    have inside : (nearProperties n).failure? = none := by
      simpa [clientNearBean, nearCacheBean] using succeeds
    have bean : (nearCacheBean (some nearCacheId) (some n)).failure? = none := by
      simpa [nearCacheBean] using inside
    have pieces : (clientNearBean (some n)).pieces =
        (nearCacheBean (some nearCacheId) (some n)).pieces := by
      show (nearCacheBean (some nearCacheId) (some n) >>= fun _ => Script.blank).pieces = _
      rw [Script.pieces_next, if_pos bean]
      exact List.append_nil _
    rw [pieces]
    exact forest_block "bean" _ (nearProperties_proper (spelled_everything n)) inside

/-- The beans of a node that succeeds are the near cache of a client, if there is one, and the node.
-/
theorem forest_nodeBeans {c : ClusterConfig} {clientNear : Option NearCacheConfig}
    (succeeds : (nodeBeans c clientNear).failure? = none) :
    forest (nodeBeans c clientNear).pieces = nodeNodes c clientNear := by
  rw [nodeBeans, Script.failure?_next, Option.or_eq_none_iff, failure?_beanBlock] at succeeds
  obtain ⟨near, node⟩ := succeeds
  obtain ⟨nearWhole, nearForest⟩ := forest_clientNearBean near
  obtain ⟨-, nodeForest⟩ := forest_block "bean" [writtenAttr "class" nodeClass]
    (nodeProperties_proper clientNear.isSome (spelled_everything c)) node
  rw [nodeBeans, Script.pieces_next, if_pos near, forest_append nearWhole, nearForest, beanBlock,
    nodeForest]
  rfl

/-! ## Documents -/

/-- A generated document holds the beans of the data sources its caches refer to, each declared
once, and the node behind them. -/
theorem clusterTree_beans {c : ClusterConfig} {clientNear : Option NearCacheConfig}
    (options : DocumentOptions) (fine : faults c clientNear = []) :
    clusterTree c clientNear options = documentNode
      (preambleNodes options (firstById (references c.caches)) ++ nodeNodes c clientNear) := by
  have succeeds : (nodeBeans c clientNear).failure? = none := by
    rw [failure?_nodeBeans, fine, List.head?_nil]
  obtain ⟨whole, ahead⟩ := forest_preamble options (firstById (references c.caches))
  rw [clusterTree, documentPieces, registered_nodeBeans fine, forest_append whole, ahead,
    forest_nodeBeans succeeds, documentNode]

/-- Reading a generated document gives the beans of the preamble and those of the node. -/
theorem clusterDocument_beans {c : ClusterConfig} {clientNear : Option NearCacheConfig}
    {options : DocumentOptions} {text : String}
    (generated : clusterDocument c clientNear options = .ok text) :
    readDocument text = some (documentNode
      (preambleNodes options (firstById (references c.caches)) ++ nodeNodes c clientNear)) := by
  have fine := (clusterDocument_ok_iff c clientNear options).mp ⟨text, generated⟩
  rw [clusterDocument_reads generated, clusterTree_beans options fine]

end GridBeans.Generation
