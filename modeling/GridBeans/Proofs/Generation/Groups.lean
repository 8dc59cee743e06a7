import GridBeans.Proofs.Generation.Document
import GridBeans.Proofs.Generation.Faults
import GridBeans.Proofs.Generation.Outlined
import GridBeans.Proofs.Generation.Sources
import GridBeans.Proofs.Generation.Tidy

/-!
# Groups of properties

Between the tags of the bean of a node stand the groups of properties of that node, and between the
tags of the bean of each of its caches those of the cache. One blank line sets apart two groups that
have any line, and there is no other blank line at the depth of the groups.
-/
namespace GridBeans.Generation

open GridBeans.Markup GridBeans.Config

/-- Lines of a bean at a depth: its tags around groups. -/
structure Grouped (depth : Nat) (className : String) (groups : List (List Line))
    (lines : List Line) : Prop where
  around : lines = .content depth (.startTag "bean" [writtenAttr "class" className]) ::
    (deeper (depth + 1) (spaced groups) ++ [.content depth (.endTag "bean")])
  /-- A blank line in a group stands ahead of a line inside one of the elements of the group. -/
  inside : ∀ group ∈ groups, BlanksAhead 1 group ∧ StartsFilled group

/-- A bean around tidy groups has blank lines between groups, and inside a group only deeper down.
-/
theorem beanAround_grouped (depth : Nat) (className : String) {groups : List (List Line)}
    (tidy : ∀ group ∈ groups, Tidy Piece.Anonymous group) :
    Grouped depth className groups (deeper depth (beanAround className (spaced groups))) := by
  have level : 1 + depth = depth + 1 := Nat.add_comm 1 depth
  refine ⟨?_, fun group mem => (tidy group mem).blanksAhead⟩
  simp [beanAround, elementLines, deeper_deeper, Line.deeper, level]

/-! ## Beans of caches within the bean of a node -/

/-- The lines of each cache stand together in the list of caches, two levels deeper. -/
theorem infix_cachesLines {cache : CacheConfig} {caches : List CacheConfig}
    (mem : cache ∈ caches) : deeper 2 (cacheLines cache) <:+: cachesLines caches := by
  have inGroups : cacheLines cache <:+: spaced (caches.map cacheLines) :=
    infix_spaced (List.mem_map_of_mem mem)
  have filled : spaced (caches.map cacheLines) ≠ [] := by
    intro none
    rw [none] at inGroups
    exact elementLines_ne_nil _ _ _ (List.infix_nil.mp inGroups)
  rw [cachesLines, containerLines, if_neg filled, ← deeper_deeper 1 1]
  refine (infix_deeper 1 ?_).trans (infix_elementLines _ _ _)
  exact (infix_deeper 1 inGroups).trans (infix_elementLines _ _ _)

/-- The lines of each cache stand together in the node, three levels deeper. -/
theorem infix_nodeLines {cache : CacheConfig} {c : ClusterConfig} (client : Bool)
    (mem : cache ∈ c.caches) : deeper 3 (cacheLines cache) <:+: nodeLines c client := by
  have last : cachesLines c.caches ∈ clientModeLines client :: nodeGroups c := by
    simp [nodeGroups]
  have inGroup := (infix_cachesLines mem).trans (infix_spaced last)
  rw [← deeper_deeper 1 2]
  exact (infix_deeper 1 inGroup).trans (infix_elementLines _ _ _)

/-! ## Groups that are always there, and others -/

/-- The property of transactions is written whatever is given, also if no section is. -/
theorem transactionLines_ne_nil (c : ClusterConfig) : transactionLines c ≠ [] := by
  unfold transactionLines shapedLines
  split
  · exact elementLines_ne_nil _ _ _
  · exact elementLines_ne_nil _ _ _

/-- A bean that is not called for is written if one of its fields has a value. -/
theorem shapedLines_eq_nil_iff (name : String) (shape : BeanShape)
    (members : List (String × Json.Value)) :
    shapedLines name shape members false = [] ↔
      shape.fields.any (·.hasValue members) = false := by
  cases present : shape.fields.any (·.hasValue members) with
  | false => simp [shapedLines, present]
  | true =>
    simp only [shapedLines, present, if_true]
    exact ⟨fun none => absurd none (elementLines_ne_nil _ _ _), nofun⟩

theorem atomicFields_present (a : AtomicConfiguration) :
    BeanShape.atomicConfiguration.fields.any (·.hasValue (membersOf (some a))) =
      (a.backups.isSome || a.cacheMode.isSome || a.atomicSequenceReserveSize.isSome) := by
  obtain ⟨backups, cacheMode, reserve⟩ := a
  cases backups <;> cases cacheMode <;> cases reserve <;> rfl

/-- Atomics are left out exactly if none of their three settings is given. -/
theorem atomicLines_eq_nil_iff (c : ClusterConfig) :
    atomicLines c = [] ↔ ∀ a ∈ c.atomicConfiguration,
      a.backups = none ∧ a.cacheMode = none ∧ a.atomicSequenceReserveSize = none := by
  rw [atomicLines, shapedLines_eq_nil_iff]
  cases c.atomicConfiguration with
  | none => simp [membersOf, FieldShape.hasValue, Json.member?]
  | some a => simp [atomicFields_present, and_assoc]

/-! ## Documents -/

/-- The lines of a node on an empty sheet are those of its outline, one level deeper. -/
theorem nodeBeans_lines {c : ClusterConfig} {clientNear : Option NearCacheConfig}
    (succeeds : (nodeBeans c clientNear).failure? = none) :
    ((nodeBeans c clientNear).runOn (Sheet.empty documentDepth)).lines =
      deeper documentDepth (clientNearLines clientNear) ++
        deeper documentDepth (nodeLines c clientNear.isSome) := by
  rw [(nodeBeans_writes c clientNear).lines_runOn succeeds, ← deeper_append]
  rfl

/-- The pieces of a node are those of its outline. -/
theorem pieces_nodeBeans {c : ClusterConfig} {clientNear : Option NearCacheConfig}
    (succeeds : (nodeBeans c clientNear).failure? = none) :
    (nodeBeans c clientNear).pieces =
      (clientNearLines clientNear ++ nodeLines c clientNear.isSome).filterMap Line.piece? := by
  rw [← (nodeBeans c clientNear).pieces_runOn documentDepth, nodeBeans_lines succeeds,
    ← deeper_append, filterMap_piece?_deeper]

/-- A node is written as the bean around its groups, behind the near cache of a client, and so is
each of its caches. The properties of transactions are always there, those of atomics if any of them
is given. -/
theorem node_laid_in_groups (c : ClusterConfig) (clientNear : Option NearCacheConfig)
    (options : DocumentOptions) (text : String)
    (generated : clusterDocument c clientNear options = .ok text) :
    ∃ node : List Line,
      ((nodeBeans c clientNear).runOn (Sheet.empty documentDepth)).lines =
        deeper documentDepth (clientNearLines clientNear) ++ node ∧
      text = documentHead options ++
        (preamble options (nodeBeans c clientNear).registered).text documentDepth ++
        renderLines (deeper documentDepth (clientNearLines clientNear) ++ node) ++ "</beans>\n" ∧
      Grouped documentDepth nodeClass
        (clientModeLines clientNear.isSome :: nodeGroups c) node ∧
      transactionLines c ≠ [] ∧
      (atomicLines c = [] ↔ ∀ a ∈ c.atomicConfiguration,
        a.backups = none ∧ a.cacheMode = none ∧ a.atomicSequenceReserveSize = none) ∧
      ∀ cache ∈ c.caches, ∃ bean : List Line, bean <:+: node ∧
        Grouped (documentDepth + 3) cacheClass (cacheGroups cache) bean := by
  obtain ⟨succeeds, written⟩ := clusterDocument_outcome generated
  have lines := nodeBeans_lines ((Script.exists_outcome_ok_iff _).mp ⟨(), succeeds⟩)
  refine ⟨deeper documentDepth (nodeLines c clientNear.isSome), lines, ?_, ?_,
    transactionLines_ne_nil c, atomicLines_eq_nil_iff c, fun cache mem => ?_⟩
  · rw [written, ← lines]
    rfl
  · exact beanAround_grouped documentDepth nodeClass (nodeGroups_tidy c clientNear.isSome)
  · have within := infix_deeper documentDepth (infix_nodeLines clientNear.isSome mem)
    rw [deeper_deeper, Nat.add_comm] at within
    exact ⟨_, within, beanAround_grouped (documentDepth + 3) cacheClass (cacheGroups_tidy cache)⟩

/-- The document of a client, whose node is the bean around its groups. -/
theorem sharingCluster_laid_in_groups :
    ∃ (text : String) (node : List Line),
      clusterDocument sharingCluster (some unsetNear) .default = .ok text ∧
      Grouped documentDepth nodeClass (clientModeLines true :: nodeGroups sharingCluster) node := by
  obtain ⟨text, generated⟩ := (clusterDocument_ok_iff sharingCluster (some unsetNear) .default).mpr
    faults_sharingCluster
  obtain ⟨node, -, -, grouped, -⟩ :=
    node_laid_in_groups sharingCluster (some unsetNear) .default text generated
  exact ⟨text, node, generated, grouped⟩

/-- A cluster with a replicated cache for which a number of backups is given. -/
def replicatedCluster : ClusterConfig :=
  { ClusterConfig.unset with
    caches := [{ CacheConfig.unset with mode := some .replicated, backups := some 1 }] }

/-- Not everything that is given is written: backups only count where a cache is partitioned. -/
theorem backups_not_always_written :
    ¬ ∀ (c : ClusterConfig) (clientNear : Option NearCacheConfig) (options : DocumentOptions)
        (text : String), clusterDocument c clientNear options = .ok text →
      ∀ cache ∈ c.caches, ∀ backups ∈ cache.backups,
        propertyTag "backups" (PropertyValue.attributeValue backups) ∈
          (nodeBeans c clientNear).pieces := by
  intro always
  have fine : faults replicatedCluster none = [] := by decide
  obtain ⟨text, generated⟩ := (clusterDocument_ok_iff replicatedCluster none .default).mpr fine
  have written := always replicatedCluster none .default text generated
    { CacheConfig.unset with mode := some .replicated, backups := some 1 }
    List.mem_cons_self 1 rfl
  exact absurd written (by decide)

end GridBeans.Generation
