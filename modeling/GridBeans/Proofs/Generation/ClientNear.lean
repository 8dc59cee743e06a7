import GridBeans.Proofs.Generation.Groups

/-!
# Near caches of clients

A document with the near cache of a client is the one without it, with lines put in at two places:
the bean of the near cache and a blank line ahead of the node, and the setting for client nodes and
a blank line as the first of the properties of the node. It can be generated exactly if the document
without it can be and the kind of eviction of the near cache is known, where one is given.
-/
namespace GridBeans.Generation

open GridBeans.Markup GridBeans.Config

/-- The kind of eviction of a near cache is left out, left empty or one of the known names. -/
def KnownEviction (near : NearCacheConfig) : Prop :=
  ∀ policy ∈ near.nearEvictionPolicy, ∀ kind ∈ policy.kind, kind = "" ∨ kind ∈ evictionKinds

/-- A near cache can be written exactly if the kind of its eviction policy is known. -/
theorem nearFaults_eq_nil_iff (near : NearCacheConfig) :
    nearFaults (some near) = [] ↔ KnownEviction near := by
  rw [nearFaults, KnownEviction]
  cases near.nearEvictionPolicy with
  | none => simp [evictionFaults]
  | some policy =>
    cases kind : policy.kind with
    | none => simp [evictionFaults, optionalKindFaults, kind]
    | some name =>
      by_cases empty : name = ""
      · simp [evictionFaults, optionalKindFaults, kind, empty]
      · simp [evictionFaults, optionalKindFaults, kindFaults, kind, empty]

/-- The faults of a near cache come before those of the cluster itself. -/
theorem faults_clientNear (c : ClusterConfig) (near : NearCacheConfig) :
    faults c (some near) = nearFaults (some near) ++ faults c none := by
  simp only [faults, List.append_assoc]
  rfl

/-- There is always something in the bean of a node, since transactions are written in any case. -/
theorem spaced_nodeGroups_ne_nil (c : ClusterConfig) : spaced (nodeGroups c) ≠ [] := by
  rw [ne_eq, spaced_eq_nil]
  intro none
  exact transactionLines_ne_nil c (none _ (by simp [nodeGroups]))

/-- The start tag of the bean of a node, the lines of its properties and its end tag. -/
theorem nodeBeans_server {c : ClusterConfig} (succeeds : (nodeBeans c none).failure? = none) :
    ((nodeBeans c none).runOn (Sheet.empty documentDepth)).lines =
      .content 1 (.startTag "bean" [writtenAttr "class" nodeClass]) ::
        (deeper 2 (spaced (nodeGroups c)) ++ [.content 1 (.endTag "bean")]) := by
  have lines : nodeLines c false = beanAround nodeClass (spaced (nodeGroups c)) := by
    simp [nodeLines, clientModeLines]
  rw [nodeBeans_lines succeeds, Option.isSome_none, lines]
  simp [clientNearLines, beanAround, elementLines, documentDepth, deeper_deeper, Line.deeper]

/-- The lines for a client: the near cache and a blank line, and in the node the setting for clients
ahead of all groups. -/
theorem nodeBeans_client {c : ClusterConfig} {near : NearCacheConfig}
    (succeeds : (nodeBeans c (some near)).failure? = none) :
    ((nodeBeans c (some near)).runOn (Sheet.empty documentDepth)).lines =
      deeper 1 (nearBeanLines (some nearCacheId) (some near)) ++ .blank ::
        .content 1 (.startTag "bean" [writtenAttr "class" nodeClass]) ::
        .content 2 (propertyTag "clientMode" (.written "true")) :: .blank ::
        (deeper 2 (spaced (nodeGroups c)) ++ [.content 1 (.endTag "bean")]) := by
  have lines : nodeLines c true = beanAround nodeClass
      (.content 0 (propertyTag "clientMode" (.written "true")) :: .blank ::
        spaced (nodeGroups c)) := by
    -- The setting for clients is the first group, and the group for transactions is never empty.
    have mode : clientModeLines true =
        [.content 0 (propertyTag "clientMode" (.written "true"))] := rfl
    rw [nodeLines, spaced_cons, mode,
      apart_of_ne_nil (List.cons_ne_nil _ _) (spaced_nodeGroups_ne_nil c)]
    rfl
  rw [nodeBeans_lines succeeds, Option.isSome_some, lines]
  simp [clientNearLines, beanAround, elementLines, documentDepth, deeper_deeper, Line.deeper]

theorem nearCacheBean_lines {near : NearCacheConfig} (known : KnownEviction near) :
    ((nearCacheBean (some nearCacheId) (some near)).runOn (Sheet.empty documentDepth)).lines =
      deeper 1 (nearBeanLines (some nearCacheId) (some near)) := by
  have succeeds : (nearCacheBean (some nearCacheId) (some near)).failure? = none := by
    rw [failure?_nearCacheBean, (nearFaults_eq_nil_iff near).mpr known, List.head?_nil]
  exact (nearCacheBean_stands (some nearCacheId) (some near)).writes.lines_runOn succeeds _

/-- The near cache of a client adds lines and changes none. The lines of the document without it
are a start tag and others; with it the bean of the near cache and a blank line come before the
tag, and the setting for clients and a blank line directly behind it. -/
theorem client_near_inserts (c : ClusterConfig) (near : NearCacheConfig)
    (options : DocumentOptions) :
    ((∃ text, clusterDocument c (some near) options = .ok text) ↔
      (∃ plain, clusterDocument c none options = .ok plain) ∧ KnownEviction near) ∧
    ∀ text plain, clusterDocument c (some near) options = .ok text →
      clusterDocument c none options = .ok plain →
      ∃ (ahead : String) (rest : List Line),
        ((nodeBeans c none).runOn (Sheet.empty documentDepth)).lines =
          .content 1 (.startTag "bean" [writtenAttr "class" nodeClass]) :: rest ∧
        ((nodeBeans c (some near)).runOn (Sheet.empty documentDepth)).lines =
          ((nearCacheBean (some nearCacheId) (some near)).runOn
              (Sheet.empty documentDepth)).lines ++
            .blank :: .content 1 (.startTag "bean" [writtenAttr "class" nodeClass]) ::
            .content 2 (propertyTag "clientMode" (.written "true")) :: .blank :: rest ∧
        (nodeBeans c (some near)).registered = (nodeBeans c none).registered ∧
        ahead = documentHead options ++
          (preamble options (nodeBeans c none).registered).text documentDepth ∧
        plain = ahead ++
          renderLines ((nodeBeans c none).runOn (Sheet.empty documentDepth)).lines ++
          "</beans>\n" ∧
        text = ahead ++
          renderLines ((nodeBeans c (some near)).runOn (Sheet.empty documentDepth)).lines ++
          "</beans>\n" := by
  refine ⟨?_, fun text plain generated generatedPlain => ?_⟩
  · rw [clusterDocument_ok_iff, clusterDocument_ok_iff, faults_clientNear,
      List.append_eq_nil_iff, nearFaults_eq_nil_iff, and_comm]
  · have fine := (clusterDocument_ok_iff c (some near) options).mp ⟨text, generated⟩
    have finePlain := (clusterDocument_ok_iff c none options).mp ⟨plain, generatedPlain⟩
    have known : KnownEviction near := by
      rw [faults_clientNear, List.append_eq_nil_iff] at fine
      exact (nearFaults_eq_nil_iff near).mp fine.1
    obtain ⟨result, written⟩ := clusterDocument_outcome generated
    obtain ⟨resultPlain, writtenPlain⟩ := clusterDocument_outcome generatedPlain
    have sameSources : (nodeBeans c (some near)).registered = (nodeBeans c none).registered := by
      rw [registered_nodeBeans fine, registered_nodeBeans finePlain]
    refine ⟨_, _, nodeBeans_server ((Script.exists_outcome_ok_iff _).mp ⟨(), resultPlain⟩), ?_,
      sameSources, rfl, writtenPlain, ?_⟩
    · rw [nodeBeans_client ((Script.exists_outcome_ok_iff _).mp ⟨(), result⟩),
        nearCacheBean_lines known]
    · rw [written, sameSources]
      rfl

/-- The two documents of one cluster, with the near cache of a client and without it. -/
theorem sharingCluster_inserts :
    ∃ text plain, clusterDocument sharingCluster (some unsetNear) .default = .ok text ∧
      clusterDocument sharingCluster none .default = .ok plain ∧
      KnownEviction unsetNear ∧
      ((nodeBeans sharingCluster (some unsetNear)).runOn (Sheet.empty documentDepth)).lines.length =
        ((nodeBeans sharingCluster none).runOn (Sheet.empty documentDepth)).lines.length + 5 := by
  obtain ⟨exact, inserts⟩ := client_near_inserts sharingCluster unsetNear .default
  obtain ⟨text, generated⟩ := (clusterDocument_ok_iff sharingCluster (some unsetNear) .default).mpr
    faults_sharingCluster
  obtain ⟨⟨plain, generatedPlain⟩, known⟩ := exact.mp ⟨text, generated⟩
  obtain ⟨-, rest, lines, clientLines, -⟩ := inserts text plain generated generatedPlain
  refine ⟨text, plain, generated, generatedPlain, known, ?_⟩
  have near : ((nearCacheBean (some nearCacheId) (some unsetNear)).runOn
      (Sheet.empty documentDepth)).lines.length = 2 := by decide
  rw [lines, clientLines, List.length_append, near]
  simp only [List.length_cons]
  omega

end GridBeans.Generation
