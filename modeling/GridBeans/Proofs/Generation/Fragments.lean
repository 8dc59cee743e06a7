import GridBeans.Proofs.Generation.Groups

/-!
# Fragments

The bean of a cache is written in the same way wherever it is written: what was written before, how
deep it stands and what is registered already decide neither whether it is written nor how. So the
list of caches in a document is made of the beans that are written for the caches alone.
-/
namespace GridBeans.Generation

open GridBeans.Markup GridBeans.Config

/-- The lines of the bean of a cache alone. -/
def fragment (c : CacheConfig) : List Line :=
  ((cacheBean c).runOn (Sheet.empty 0)).lines

variable {c : CacheConfig}

/-- The fragment of a cache that succeeds is the lines of its bean at depth zero. -/
theorem fragment_eq (succeeds : (cacheBean c).failure? = none) : fragment c = cacheLines c := by
  have alone := (cacheBean_stands c).writes.lines_runOn succeeds (Sheet.empty 0)
  rw [fragment, alone]
  exact deeper_zero (cacheLines c)

/-- Generating a bean alone succeeds or fails exactly as writing it inside a document does. -/
theorem cacheDocument_map (c : CacheConfig) :
    (cacheDocument c).map (fun _ => ()) = (cacheBean c).outcome := by
  rw [cacheDocument]
  cases (cacheBean c).outcome with
  | error e => rfl
  | ok u => rfl

theorem cacheDocument_eq_ok (succeeds : (cacheBean c).failure? = none) :
    cacheDocument c = .ok (renderLines (fragment c)) := by
  obtain ⟨u, result⟩ := (cacheBean c).exists_outcome_ok_iff.mpr succeeds
  rw [cacheDocument]
  simp only [result]
  rfl

/-- Written on any desk, a bean that succeeds adds the lines of its fragment at the depth of the
desk. -/
theorem run_cacheBean (succeeds : (cacheBean c).failure? = none) (d : Desk) :
    (d.run (cacheBean c)).sheet.lines =
      d.sheet.lines ++ deeper d.sheet.cursor.depth (fragment c) := by
  rw [fragment_eq succeeds]
  exact (cacheBean_stands c).writes.lines_runOn succeeds d.sheet

/-! ## The list of caches -/

/-- The caches are the last of the groups of a node. -/
theorem nodeGroups_concat (c : ClusterConfig) (client : Bool) :
    clientModeLines client :: nodeGroups c =
      (clientModeLines client :: nodeGroups c).dropLast ++ [cachesLines c.caches] :=
  rfl

/-- Around the caches of a node stand the tags of a list in a property. -/
theorem cachesLines_eq {caches : List CacheConfig} (given : caches ≠ []) :
    cachesLines caches =
      .content 0 (.startTag "property" [writtenAttr "name" "cacheConfiguration"]) ::
        .content 1 (.startTag "list" []) ::
        (deeper 2 (spaced (caches.map cacheLines)) ++
          [.content 1 (.endTag "list"), .content 0 (.endTag "property")]) := by
  have filled : spaced (caches.map cacheLines) ≠ [] := by
    obtain ⟨cache, mem⟩ := List.exists_mem_of_ne_nil caches given
    rw [ne_eq, spaced_eq_nil]
    intro none
    exact elementLines_ne_nil _ _ _ (none _ (List.mem_map_of_mem mem))
  rw [cachesLines, containerLines, if_neg filled]
  simp [propertyAround, elementLines, deeper_deeper, Line.deeper]

/-- Fragments one after the other, four levels deep, with a blank line between two of them. -/
theorem deeper_caches {caches : List CacheConfig}
    (succeeds : ∀ cache ∈ caches, (cacheBean cache).failure? = none) (levels : Nat) :
    deeper levels (spaced (caches.map cacheLines)) =
      [Line.blank].intercalate (caches.map fun cache => deeper levels (fragment cache)) := by
  have same : (caches.map cacheLines).map (deeper levels) =
      caches.map fun cache => deeper levels (fragment cache) := by
    rw [List.map_map]
    exact List.map_congr_left fun cache mem => by
      rw [Function.comp_apply, fragment_eq (succeeds cache mem)]
  have filled : ∀ group ∈ caches.map (fun cache => deeper levels (fragment cache)),
      group ≠ [] := by
    intro group mem
    obtain ⟨cache, inside, rfl⟩ := List.mem_map.mp mem
    rw [ne_eq, deeper_eq_nil, fragment_eq (succeeds cache inside)]
    exact elementLines_ne_nil _ _ _
  rw [deeper_spaced, same, spaced_of_filled filled]

/-- The beans of a node without faults have none in its caches. -/
theorem cacheBean_succeeds {c : ClusterConfig} {clientNear : Option NearCacheConfig}
    (fine : faults c clientNear = []) :
    ∀ cache ∈ c.caches, (cacheBean cache).failure? = none := by
  intro cache mem
  have none : c.caches.flatMap cacheFaults = [] := by
    simp only [faults, List.append_eq_nil_iff] at fine
    exact fine.2
  rw [failure?_cacheBean, List.flatMap_eq_nil_iff.mp none cache mem, List.head?_nil]

/-- The lines of a node that has caches end in their list. -/
theorem nodeBeans_caches {c : ClusterConfig} {clientNear : Option NearCacheConfig}
    (fine : faults c clientNear = []) (given : c.caches ≠ []) :
    ∃ ahead : List Line,
      ((nodeBeans c clientNear).runOn (Sheet.empty documentDepth)).lines = ahead ++
        (.content 2 (.startTag "property" [writtenAttr "name" "cacheConfiguration"]) ::
          .content 3 (.startTag "list" []) ::
          ([Line.blank].intercalate (c.caches.map fun cache => deeper 4 (fragment cache)) ++
            [.content 3 (.endTag "list"), .content 2 (.endTag "property"),
              .content 1 (.endTag "bean")])) := by
  have succeeds : (nodeBeans c clientNear).failure? = none := by
    rw [failure?_nodeBeans, fine, List.head?_nil]
  obtain ⟨ahead, groups⟩ := exists_spaced_concat
    (clientModeLines clientNear.isSome :: nodeGroups c).dropLast (cachesLines c.caches)
  rw [← nodeGroups_concat, cachesLines_eq given] at groups
  refine ⟨deeper documentDepth (clientNearLines clientNear) ++
    .content 1 (.startTag "bean" [writtenAttr "class" nodeClass]) :: deeper 2 ahead, ?_⟩
  rw [nodeBeans_lines succeeds, nodeLines, groups,
    ← deeper_caches (cacheBean_succeeds fine)]
  simp [beanAround, elementLines, documentDepth, deeper_deeper, Line.deeper]

/-- The bean of a cache does not depend on where it is written. It is written exactly if it can be
generated alone, with the same failure otherwise, and then adds the lines of its fragment, each one
that is not blank four spaces deeper for each level. The list of the caches of a document consists
of the fragments of these caches, sixteen spaces deep, with a blank line between two. -/
theorem cacheBean_written_as_fragment :
    (∀ (c : CacheConfig) (d : Desk),
      (cacheDocument c).map (fun _ => ()) = (cacheBean c).outcome ∧
      ∀ text, cacheDocument c = .ok text →
        text = renderLines (fragment c) ∧
        (d.run (cacheBean c)).sheet.lines =
          d.sheet.lines ++ deeper d.sheet.cursor.depth (fragment c) ∧
        (d.run (cacheBean c)).sheet.lines.map Line.render =
          d.sheet.lines.map Line.render ++ (fragment c).map fun line =>
            if line = .blank then "" else indentation d.sheet.cursor.depth ++ line.render) ∧
    ∀ (c : ClusterConfig) (clientNear : Option NearCacheConfig) (options : DocumentOptions)
      (text : String), clusterDocument c clientNear options = .ok text →
      (∀ cache ∈ c.caches, cacheDocument cache = .ok (renderLines (fragment cache)) ∧
        (deeper 4 (fragment cache)).map Line.render = (fragment cache).map fun line =>
          if line = .blank then "" else "                " ++ line.render) ∧
      (c.caches ≠ [] → ∃ ahead : List Line,
        ((nodeBeans c clientNear).runOn (Sheet.empty documentDepth)).lines = ahead ++
          (.content 2 (.startTag "property" [writtenAttr "name" "cacheConfiguration"]) ::
            .content 3 (.startTag "list" []) ::
            ([Line.blank].intercalate (c.caches.map fun cache => deeper 4 (fragment cache)) ++
              [.content 3 (.endTag "list"), .content 2 (.endTag "property"),
                .content 1 (.endTag "bean")])) ∧
        text = documentHead options ++
          (preamble options (nodeBeans c clientNear).registered).text documentDepth ++
          renderLines ((nodeBeans c clientNear).runOn (Sheet.empty documentDepth)).lines ++
          "</beans>\n") := by
  refine ⟨fun c d => ⟨cacheDocument_map c, fun text generated => ?_⟩,
    fun c clientNear options text generated => ?_⟩
  · obtain ⟨result, rfl⟩ := cacheDocument_outcome generated
    have added := run_cacheBean ((cacheBean c).exists_outcome_ok_iff.mp ⟨(), result⟩) d
    refine ⟨rfl, added, ?_⟩
    rw [added, List.map_append, map_render_deeper]
  · have fine := (clusterDocument_ok_iff c clientNear options).mp ⟨text, generated⟩
    obtain ⟨-, written⟩ := clusterDocument_outcome generated
    refine ⟨fun cache mem => ⟨cacheDocument_eq_ok (cacheBean_succeeds fine cache mem),
      map_render_deeper 4 (fragment cache)⟩, fun given => ?_⟩
    obtain ⟨ahead, lines⟩ := nodeBeans_caches fine given
    exact ⟨ahead, lines, written⟩

/-- A desk in the middle of a document, with a blank line requested. -/
def pendingDesk : Desk :=
  ⟨⟨[.blank], ⟨3, true, false⟩⟩, Registry.empty.register ⟨"dsOracle", "other.Source"⟩⟩

/-- The caches of a document next to their fragments, on a desk on which a blank line is still due.
-/
theorem sharingCluster_fragments :
    ∃ (text : String) (ahead : List Line),
      clusterDocument sharingCluster (some unsetNear) .default = .ok text ∧
      (∀ cache ∈ sharingCluster.caches,
        cacheDocument cache = .ok (renderLines (fragment cache)) ∧
        (pendingDesk.run (cacheBean cache)).sheet.lines = .blank :: deeper 3 (fragment cache)) ∧
      sharingCluster.caches ≠ [] ∧
      ((nodeBeans sharingCluster (some unsetNear)).runOn (Sheet.empty documentDepth)).lines =
        ahead ++
          (.content 2 (.startTag "property" [writtenAttr "name" "cacheConfiguration"]) ::
            .content 3 (.startTag "list" []) ::
            ([Line.blank].intercalate
                (sharingCluster.caches.map fun cache => deeper 4 (fragment cache)) ++
              [.content 3 (.endTag "list"), .content 2 (.endTag "property"),
                .content 1 (.endTag "bean")])) := by
  obtain ⟨text, generated⟩ := (clusterDocument_ok_iff sharingCluster (some unsetNear) .default).mpr
    faults_sharingCluster
  have given : sharingCluster.caches ≠ [] := by decide
  obtain ⟨anywhere, documents⟩ := cacheBean_written_as_fragment
  obtain ⟨alone, list⟩ := documents sharingCluster (some unsetNear) .default text generated
  obtain ⟨ahead, lines, -⟩ := list given
  refine ⟨text, ahead, generated, fun cache mem => ?_, given, lines⟩
  obtain ⟨generatedAlone, -⟩ := alone cache mem
  obtain ⟨-, added, -⟩ := (anywhere cache pendingDesk).2 _ generatedAlone
  exact ⟨generatedAlone, added⟩

end GridBeans.Generation
