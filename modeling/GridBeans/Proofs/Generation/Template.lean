import GridBeans.Proofs.Generation.Beans

/-!
# The template of the properties file

A document and the template of its properties file are generated from the same data sources. They
fail alike, and where they succeed each bean of a data source refers to the keys that its stanza of
the template has.
-/
namespace GridBeans.Generation

open GridBeans.Xml GridBeans.Config

/-- The keys of a data source, each without a value, under a comment that names it. -/
def stanza (s : DataSource) : String :=
  "# " ++ s.beanId ++ " (" ++ s.className ++ ")\n" ++
    String.join ((credentialKeys s).map fun key => key ++ "=\n") ++ "\n"

/-- The template of a cluster without data sources. -/
def noSourcesText : String := "# No data sources are configured.\n"

def propertyValues : Node → List String
  | .element _ _ children => children.filterMap (attribute? "value")
  | .text _ => []

theorem secretStanza_eq_stanza (s : DataSource) : secretStanza s = stanza s :=
  calc
    secretStanza s = "# " ++ s.beanId ++ " (" ++ s.className ++ ")\n" ++
        s.beanId ++ ".jdbc.url=\n" ++ s.beanId ++ ".jdbc.username=\n" ++
        s.beanId ++ ".jdbc.password=\n\n" := rfl
    _ = stanza s := by simp [stanza, credentialKeys, String.join_cons, String.append_assoc]

/-- A stanza has the class of its data source in parentheses, and no other template has any. -/
theorem join_stanza_ne (s : DataSource) (rest : List DataSource) :
    String.join ((s :: rest).map stanza) ≠ noSourcesText := by
  have inside : '(' ∈ (stanza s).toList := by
    simp only [stanza, String.toList_append, List.mem_append]
    exact .inl (.inl (.inl (.inl (.inr (by decide)))))
  have outside : '(' ∉ noSourcesText.toList := by decide
  intro same
  rw [List.map_cons, String.join_cons] at same
  rw [← same, String.toList_append] at outside
  exact outside (List.mem_append_left _ inside)

/-- The template of a cluster without fault. -/
def templateOf (sources : List DataSource) : String :=
  if sources = [] then noSourcesText else String.join (sources.map stanza)

/-- No stanza reads like the text for a cluster without data sources. -/
theorem templateOf_eq_noSourcesText (sources : List DataSource) :
    templateOf sources = noSourcesText ↔ sources = [] := by
  cases sources with
  | nil => simp [templateOf]
  | cons s rest =>
    rw [templateOf, if_neg (List.cons_ne_nil s rest)]
    exact ⟨fun same => absurd same (join_stanza_ne s rest), nofun⟩

/-- The template of a cluster without fault has the first reference to each bean, in order. -/
theorem secretProperties_ok {c : ClusterConfig} (fine : faults c none = []) :
    secretProperties c = .ok (templateOf (firstById (references c.caches))) := by
  have succeeds : (nodeBeans c none).failure? = none := by
    rw [failure?_nodeBeans, fine, List.head?_nil]
  obtain ⟨u, result⟩ := (Script.exists_outcome_ok_iff _).mpr succeeds
  have stanzas : secretStanza = stanza := funext secretStanza_eq_stanza
  simp only [secretProperties, result, registered_nodeBeans fine, stanzas, templateOf,
    List.isEmpty_iff, noSourcesText]

/-- A client node without fault has none without its near cache. -/
theorem faults_none {c : ClusterConfig} {clientNear : Option NearCacheConfig}
    (fine : faults c clientNear = []) : faults c none = [] := by
  simp only [faults, List.append_eq_nil_iff] at fine ⊢
  obtain ⟨⟨⟨⟨⟨-, discovery⟩, events⟩, marshals⟩, swaps⟩, cached⟩ := fine
  exact ⟨⟨⟨⟨⟨rfl, discovery⟩, events⟩, marshals⟩, swaps⟩, cached⟩

/-- The bean that loads the properties file is there if any data source is declared: no bean of a
node has its id. -/
theorem loader_declared_iff (c : ClusterConfig) (clientNear : Option NearCacheConfig)
    (options : DocumentOptions) (sources : List DataSource) :
    (∃ bean ∈ preambleNodes options sources ++ nodeNodes c clientNear,
        attribute? "id" bean = some "placeholderConfig") ↔ sources ≠ [] := by
  have otherBean : ∀ bean ∈ nodeNodes c clientNear,
      attribute? "id" bean ≠ some "placeholderConfig" := by
    intro bean mem
    rcases List.mem_append.mp mem with near | node
    · obtain ⟨n, -, rfl⟩ := List.mem_map.mp near
      simp [attribute?, nearNode, nearCacheId]
    · rw [List.mem_singleton.mp node]
      simp [attribute?]
  constructor
  · rintro ⟨bean, mem, named⟩ rfl
    exact otherBean bean mem named
  · intro declared
    refine ⟨loaderNode options, List.mem_append_left _ ?_, by simp [attribute?, loaderNode]⟩
    rw [preambleNodes, List.isEmpty_eq_false_iff.mpr declared]
    exact List.mem_cons_self

/-- A document and the template of its properties file agree. Without a near cache both are
generated or both fail alike. Wherever a document is generated, there is one list of data sources
whose beans it declares and whose stanzas make up the template, and the references in each bean are
to the keys of its stanza. The document has no preamble exactly if the template has no stanza. -/
theorem document_agrees_with_template :
    (∀ (c : ClusterConfig) (options : DocumentOptions) (e : Failure),
      secretProperties c = .error e ↔ clusterDocument c none options = .error e) ∧
    ∀ (c : ClusterConfig) (clientNear : Option NearCacheConfig) (options : DocumentOptions)
        (text : String), clusterDocument c clientNear options = .ok text →
      ∃ (sources : List DataSource) (template : String),
        readDocument text =
          some (documentNode (preambleNodes options sources ++ nodeNodes c clientNear)) ∧
        secretProperties c = .ok template ∧
        template = (if sources = [] then noSourcesText else String.join (sources.map stanza)) ∧
        (∀ s ∈ sources, propertyValues (sourceNode s) = (credentialKeys s).map referenceTo) ∧
        (template = noSourcesText ↔ preambleNodes options sources = []) ∧
        (template = noSourcesText ↔
          ¬ ∃ bean ∈ preambleNodes options sources ++ nodeNodes c clientNear,
            attribute? "id" bean = some "placeholderConfig") ∧
        (template = noSourcesText → text = documentHead options ++
          (nodeBeans c clientNear).text documentDepth ++ "</beans>\n") := by
  constructor
  · intro c options e
    rw [secretProperties_error_iff, clusterDocument_error_iff]
  · intro c clientNear options text generated
    have fine := (clusterDocument_ok_iff c clientNear options).mp ⟨text, generated⟩
    obtain ⟨-, written⟩ := clusterDocument_outcome generated
    rw [registered_nodeBeans fine] at written
    have empty := templateOf_eq_noSourcesText (firstById (references c.caches))
    refine ⟨firstById (references c.caches), templateOf (firstById (references c.caches)),
      clusterDocument_beans generated, secretProperties_ok (faults_none fine), rfl,
      fun s _ => rfl, ?_, ?_, ?_⟩
    · rw [empty, preambleNodes_eq_nil]
    · rw [empty, loader_declared_iff, not_not]
    · intro nothing
      have ahead : (preamble options []).text documentDepth = "" := rfl
      rw [written, empty.mp nothing, ahead, String.append_empty]

/-- A document that declares two data sources, and the template with their stanzas. -/
theorem sharingCluster_agrees :
    ∃ (text : String) (sources : List DataSource) (template : String),
      clusterDocument sharingCluster (some unsetNear) .default = .ok text ∧
      readDocument text = some (documentNode
        (preambleNodes .default sources ++ nodeNodes sharingCluster (some unsetNear))) ∧
      secretProperties sharingCluster = .ok template ∧
      template = (if sources = [] then noSourcesText else String.join (sources.map stanza)) ∧
      (template = noSourcesText ↔ preambleNodes .default sources = []) := by
  obtain ⟨text, generated⟩ :=
    (clusterDocument_ok_iff sharingCluster (some unsetNear) .default).mpr faults_sharingCluster
  obtain ⟨sources, template, reads, templated, stanzas, -, absent, -⟩ :=
    document_agrees_with_template.2 _ _ _ _ generated
  exact ⟨text, sources, template, generated, reads, templated, stanzas, absent⟩

end GridBeans.Generation
