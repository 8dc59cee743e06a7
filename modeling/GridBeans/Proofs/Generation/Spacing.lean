import GridBeans.Proofs.Generation.Blocks
import GridBeans.Proofs.Generation.Groups
import GridBeans.Proofs.Generation.Sources
import GridBeans.Proofs.Markup.Spacing

/-!
# Spacing of documents

The beans of a node are well spaced at every level. A blank line may be due from a request, be
written outright between two caches or two groups of events, or stand behind the near cache of a
client: the outlines show that there is a line on either side of each of them.
-/
namespace GridBeans.Generation

open GridBeans.Markup GridBeans.Config

/-- The near cache of a client and the node, or the node alone. -/
theorem beansLines_aired (c : ClusterConfig) (clientNear : Option NearCacheConfig) :
    Aired (clientNearLines clientNear ++ nodeLines c clientNear.isSome) := by
  have node : Aired (nodeLines c clientNear.isSome) := (nodeLines_tidy c _).aired
  cases clientNear with
  | none => exact node
  | some near =>
    have bean : Aired (nearBeanLines (some nearCacheId) (some near)) :=
      .element _ _ (Tidy.flatMap fun n _ => nearLines_tidy n).aired
    have beanFilled : nearBeanLines (some nearCacheId) (some near) ≠ [] :=
      elementLines_ne_nil _ _ _
    have nodeFilled : nodeLines c (some near).isSome ≠ [] := elementLines_ne_nil _ _ _
    have parted := bean.apart node
    rw [apart_of_ne_nil beanFilled nodeFilled] at parted
    rw [clientNearLines, Option.toList_some, List.flatMap_singleton, List.append_assoc]
    exact parted

/-- Whatever is given and left out, the beans of a node are well spaced, the lines in each of them
as well as those around them. -/
theorem nodeBeans_well_spaced (c : ClusterConfig) (clientNear : Option NearCacheConfig)
    (succeeds : (nodeBeans c clientNear).outcome = .ok ()) :
    ((Cursor.start documentDepth).written (nodeBeans c clientNear).marks).map Prod.snd =
        ((nodeBeans c clientNear).runOn (Sheet.empty documentDepth)).lines ∧
      WellSpaced ((Cursor.start documentDepth).written (nodeBeans c clientNear).marks) := by
  have noFailure := (nodeBeans c clientNear).exists_outcome_ok_iff.mp ⟨(), succeeds⟩
  have lines := (nodeBeans_writes c clientNear noFailure (Cursor.start documentDepth)).1
  refine ⟨Cursor.map_snd_written _ _, Aired.wellSpaced ?_ ?_⟩
  · exact ((nodeBeans_nests c clientNear).closed () succeeds).tagged
  · rw [lines]
    exact (beansLines_aired c clientNear).deeper _

/-- The beans of a cluster with stores and a client succeed, and are well spaced. -/
theorem sharingCluster_well_spaced :
    (nodeBeans sharingCluster (some unsetNear)).outcome = .ok () ∧
      WellSpaced ((Cursor.start documentDepth).written
        (nodeBeans sharingCluster (some unsetNear)).marks) := by
  have succeeds : (nodeBeans sharingCluster (some unsetNear)).outcome = .ok () := by decide
  exact ⟨succeeds, (nodeBeans_well_spaced _ _ succeeds).2⟩

end GridBeans.Generation
