import GridBeans.Generation.Document
import GridBeans.Proofs.Generation.Script
import GridBeans.Proofs.Markup.Nesting

/-!
# Blocks of scripts

Every script closes the blocks it opens if it succeeds. If it fails, some may be left open, but it
has not closed any other. Scripts are put together in ways that keep this, so whatever sheet a part
of a document is written on, the lines before it stay and its own lines are balanced.
-/
namespace GridBeans.Generation

open GridBeans.Markup GridBeans.Config GridBeans.Catalogue GridBeans.Json

namespace Script

variable {α β : Type}

/-- The marks of the script are nested; those of a script that fails may end inside blocks. -/
structure Nests (x : Script α) : Prop where
  closed : ∀ a, x.outcome = .ok a → Nested x.marks
  unclosed : ∀ e, x.outcome = .error e → Unclosed x.marks

/-- What the script does to the blocks of a sheet. -/
structure KeepsBlocks (x : Script α) (s : Sheet) : Prop where
  tagged : ∀ m ∈ x.marks, m.Tagged
  /-- At any moment the lines of the sheet are still there. -/
  lines : ∀ done rest, x.marks = done ++ rest → s.lines <+: (s.run done).lines
  /-- At no moment is the depth below that of the sheet. -/
  depth : ∀ done rest, x.marks = done ++ rest → s.cursor.depth ≤ (s.run done).cursor.depth
  /-- Where a block is closed, one is open that the script has opened. -/
  closing : ∀ done piece rest, x.marks = done ++ .closing piece :: rest →
    s.cursor.depth < (s.run done).cursor.depth
  success : ∀ a, x.outcome = .ok a → (x.runOn s).cursor.depth = s.cursor.depth ∧
    ∃ lines, (x.runOn s).lines = s.lines ++ lines ∧ Balanced s.cursor.depth lines
  failure : ∀ e, x.outcome = .error e → s.cursor.depth ≤ (x.runOn s).cursor.depth

namespace Nests

/-! ## Sequences -/

theorem ofExcept (outcome : Except Failure α) : (Script.ofExcept outcome).Nests :=
  ⟨fun _ _ => .nil, fun _ _ => .nested .nil⟩

theorem pure (a : α) : (Pure.pure a : Script α).Nests :=
  .ofExcept (.ok a)

theorem fail (e : Failure) : (Script.fail e : Script α).Nests :=
  .ofExcept (.error e)

/-- A script that goes on with a result nests, if what follows nests for every result. -/
theorem bind {x : Script α} {f : α → Script β} (first : x.Nests)
    (second : ∀ a, (f a).Nests) : (x >>= f).Nests := by
  have marks : (x >>= f).marks = _ := marks_andThen x f
  cases result : x.outcome with
  | error e =>
    rw [result, List.append_nil] at marks
    refine ⟨fun b succeeds => ?_, fun _ _ => marks ▸ first.unclosed e result⟩
    rw [outcome_bind, result] at succeeds
    cases succeeds
  | ok a =>
    rw [result] at marks
    have ahead := first.closed a result
    have outcome : (x >>= f).outcome = (f a).outcome := by rw [outcome_bind, result]; rfl
    refine ⟨fun b succeeds => ?_, fun e fails => ?_⟩
    · rw [marks]
      exact ahead.append ((second a).closed b (outcome ▸ succeeds))
    · rw [marks]
      exact .behind ahead ((second a).unclosed e (outcome ▸ fails))

theorem next {x : Script α} {y : Script β} (first : x.Nests) (second : y.Nests) :
    (x >>= fun _ => y).Nests :=
  first.bind fun _ => second

theorem discard {x : Script α} (nests : x.Nests) : (Functor.discard x).Nests :=
  nests.next (.pure ())

theorem onlyIf {condition : Prop} [Decidable condition] {x : Script Unit} (nests : x.Nests) :
    (Script.onlyIf condition x).Nests := by
  rw [Script.onlyIf]
  split
  · exact nests
  · exact .pure ()

theorem forSome {value : Option α} {f : α → Script Unit} (each : ∀ a, (f a).Nests) :
    (Script.forSome value f).Nests := by
  cases value with
  | none => exact .pure ()
  | some a => exact each a

theorem forEach {items : List α} {f : α → Script Unit} (each : ∀ a, (f a).Nests) :
    (Script.forEach items f).Nests := by
  induction items with
  | nil => exact .pure ()
  | cons a rest ih => exact (each a).next ih

/-! ## Marks -/

theorem spacing {m : Mark} (silent : m.piece? = none) : (Script.mark m).Nests :=
  ⟨fun _ _ => .spacing silent .nil, nofun⟩

theorem blank : Script.blank.Nests := .spacing rfl

theorem requestBlank : Script.requestBlank.Nests := .spacing rfl

theorem sectionStart : Script.sectionStart.Nests := .spacing rfl

theorem line {piece : Piece} (closed : piece.Closed) : (Script.line piece).Nests :=
  ⟨fun _ _ => .line closed .nil, nofun⟩

theorem register (s : DataSource) : (Script.register s).Nests :=
  ⟨fun _ _ => .nil, nofun⟩

theorem forEachSpaced {items : List α} {f : α → Script Unit} (each : ∀ a, (f a).Nests) :
    (Script.forEachSpaced items f).Nests := by
  induction items with
  | nil => exact .pure ()
  | cons a rest ih =>
    cases rest with
    | nil => exact each a
    | cons b rest => exact (each a).next (blank.next ih)

/-! ## Elements -/

/-- What nests may stand inside an element, since the lines around it open and close the same one.
-/
theorem block {element : String} {attributes : List Attribute} {body : Script Unit}
    (nests : body.Nests) : (Script.block element attributes body).Nests := by
  have marks : (Script.block element attributes body).marks =
      .opening (.startTag element attributes) ::
        (body.andThen fun _ => Script.mark (.closing (.endTag element))).marks :=
    marks_andThen (Script.mark (.opening (.startTag element attributes))) _
  rw [marks_andThen] at marks
  refine ⟨fun a succeeds => ?_, fun e fails => ?_⟩
  · rw [outcome_block] at succeeds
    rw [marks, succeeds]
    exact .block (nests.closed a succeeds) .nil
  · rw [outcome_block] at fails
    rw [marks, fails, List.append_nil]
    have opened : Unclosed ([] ++ .opening (.startTag element attributes) :: body.marks) :=
      .inside .nil (nests.unclosed e fails)
    exact opened

/-! ## Any sheet -/

/-- Whether it succeeds or not, a script that nests closes no block but its own. -/
theorem marks {x : Script α} (nests : x.Nests) : Unclosed x.marks := by
  cases result : x.outcome with
  | error e => exact nests.unclosed e result
  | ok a => exact .nested (nests.closed a result)

/-- A script whose marks are nested keeps the blocks of every sheet. -/
theorem keepsBlocks {x : Script α} (nests : x.Nests) (s : Sheet) : x.KeepsBlocks s where
  tagged := nests.marks.tagged
  lines := fun _ _ _ => List.prefix_append _ _
  depth := (nests.marks.keepsAbove (Nat.le_refl s.cursor.depth)).depth
  closing := (nests.marks.keepsAbove (Nat.le_refl s.cursor.depth)).closing
  success := fun a succeeds =>
    have run := (nests.closed a succeeds).run s.cursor
    ⟨run.1, (s.cursor.run x.marks).1, rfl, run.2⟩
  failure := fun _ _ =>
    (nests.marks.keepsAbove (Nat.le_refl s.cursor.depth)).depth x.marks []
      (List.append_nil _).symm

end Nests

end Script

open Script

/-! ## Properties -/

theorem property_nests {α : Type} [PropertyValue α] (name : String) (value : Option α) :
    (property name value).Nests := by
  cases value with
  | none => exact .pure ()
  | some a => exact .next .sectionStart (.line trivial)

theorem rowsProperty_nests {α : Type} (name container : String) (items : List α)
    {row : α → Piece} (closed : ∀ a, (row a).Closed) :
    (rowsProperty name container items row).Nests := by
  rw [rowsProperty]
  split
  · exact .pure ()
  · exact .next .sectionStart (.block (.block (.forEach fun a => .line (closed a))))

theorem listProperty_nests (name container : String) (items : List String) :
    (listProperty name container items).Nests :=
  rowsProperty_nests name container items fun _ => trivial

theorem containerProperty_nests {α : Type} (name container : String) (items : List α)
    {each : α → Script Unit} (nests : ∀ a, (each a).Nests) :
    (containerProperty name container items each).Nests := by
  rw [containerProperty]
  split
  · exact .pure ()
  · exact .block (.block (.forEach nests))

/-! ## Beans of a shape -/

theorem writeValue_nests (f : FieldShape) (v : Value) : (f.writeValue v).Nests := by
  unfold FieldShape.writeValue
  cases f.kind with
  | scalar => exact property_nests _ _
  | list => exact listProperty_nests _ _ _
  | classNameRef =>
    cases v with
    | string name =>
      simp only
      split
      · exact .pure ()
      · exact .block (.line trivial)
    | null | bool | number | array | object => exact .pure ()
  | propertyBag => exact rowsProperty_nests _ _ _ fun _ => trivial

theorem write_nests (f : FieldShape) (members : List (String × Value)) :
    (f.write members).Nests := by
  unfold FieldShape.write
  split
  · split
    · exact writeValue_nests f _
    · exact .pure ()
  · exact .pure ()

/-- The bean of a shape nests, whatever its members are and whether or not it is forced. -/
theorem shapedBean_nests (name : String) (shape : BeanShape) (members : List (String × Value))
    (force : Bool) : (shapedBean name shape members force).Nests := by
  unfold shapedBean
  split
  · exact .next .sectionStart (.block (.block (.forEach fun f => write_nests f members)))
  · split
    · exact .next .sectionStart (.block (.line trivial))
    · exact .pure ()

/-- What is chosen by a kind, which may be left out or left empty. -/
theorem choice_nests {κ : Type} (kind : Option String) (ofName : String → Except Failure κ)
    {f : κ → Script Bool} (each : ∀ k, (f k).Nests) :
    (match Text.nonEmpty? kind with
      | none => pure false
      | some name => Script.ofExcept (ofName name) >>= f : Script Bool).Nests := by
  cases Text.nonEmpty? kind with
  | none => exact .pure false
  | some name => exact .bind (.ofExcept _) each

theorem evictionPolicy_nests (policy : Option EvictionPolicyConfig) (propertyName : String) :
    (evictionPolicy policy propertyName).Nests := by
  cases policy with
  | none => exact .pure false
  | some p => exact choice_nests p.kind _ fun _ => .next (shapedBean_nests _ _ _ _) (.pure true)

theorem marshaller_nests (config : Option MarshallerConfig) : (marshaller config).Nests := by
  cases config with
  | none => exact .pure false
  | some m => exact choice_nests m.kind _ fun _ => .next (shapedBean_nests _ _ _ _) (.pure true)

theorem swapSpace_nests (config : Option SwapSpaceSpiConfig) : (swapSpace config).Nests := by
  cases config with
  | none => exact .pure false
  | some s =>
    rw [swapSpace]
    split
    · exact .pure false
    · split
      · exact .next (shapedBean_nests _ _ _ _) (.pure true)
      · exact .fail _

/-! ## Stores -/

/-- A store may fail behind its bean, and the blocks of the bean are closed by then. -/
theorem storeFactoryOf_nests (kind : StoreKind) (f : StoreFactoryConfig) :
    (storeFactoryOf kind f).Nests := by
  cases kind with
  | jdbcPojo =>
    exact .bind (.ofExcept _) fun settings => .next (shapedBean_nests _ _ _ _) <|
      .bind (.ofExcept _) fun _ => .forSome .register
  | jdbcBlob => exact .bind (.ofExcept _) fun _ => shapedBean_nests _ _ _ _
  | hibernateBlob => exact .bind (.ofExcept _) fun _ => shapedBean_nests _ _ _ _

theorem storeFactory_nests (factory : Option StoreFactoryConfig) :
    (storeFactory factory).Nests := by
  cases factory with
  | none => exact .pure false
  | some f => exact choice_nests f.kind _ fun k => .next (storeFactoryOf_nests k f) (.pure true)

/-! ## Discovery and event types -/

theorem finderBean_nests (finder : IpFinder) : finder.bean.Nests := by
  cases finder with
  | multicast m =>
    exact .block <| .next (property_nests _ _) <| .next (property_nests _ _) <|
      .next (property_nests _ _) <| .next (property_nests _ _) (property_nests _ _)
  | vm v =>
    simp only [IpFinder.bean]
    split
    · exact .line trivial
    · exact .block (listProperty_nests _ _ _)
  | s3 s =>
    refine .block ?_
    split
    · exact .line trivial
    · exact .pure ()
  | cloud c =>
    exact .block <| .next (property_nests _ _) <| .next (property_nests _ _) <|
      .next (property_nests _ _) <| .next (property_nests _ _) <|
      .next (listProperty_nests _ _ _) (listProperty_nests _ _ _)
  | googleStorage g =>
    exact .block <| .next (property_nests _ _) <| .next (property_nests _ _) <|
      .next (property_nests _ _) (property_nests _ _)
  | jdbc j => exact .block (property_nests _ _)
  | sharedFs f =>
    simp only [IpFinder.bean]
    split
    · exact .block (property_nests _ _)
    · exact .line trivial

theorem discovery_nests (d : DiscoveryConfig) : (discovery d).Nests :=
  .bind (.ofExcept _) fun finder => .next .sectionStart <|
    .block (.block (.block (finderBean_nests finder)))

theorem groupEvents_nests (g : EventGroup) : (groupEvents g).Nests :=
  .next (.line trivial) (.forEach fun _ => .line trivial)

/-- Groups are looked up ahead of the first line, so no block is open where the lookup fails. -/
theorem eventTypes_nests (names : List String) : (eventTypes names).Nests := by
  rw [eventTypes]
  split
  · exact .pure ()
  · refine .bind (.ofExcept _) fun groups => .next .sectionStart (.next (.block ?_) .requestBlank)
    split
    · exact .line trivial
    · exact .block (.forEachSpaced groupEvents_nests)

/-! ## Type entries -/

theorem databaseField_nests (f : DatabaseField) : (databaseField f).Nests :=
  .block <| .next (property_nests _ _) <| .next (.block (.line trivial)) <|
    .next (property_nests _ _) (property_nests _ _)

theorem queryFields_nests (name : String) (fields : List QueryField) :
    (queryFields name fields).Nests :=
  containerProperty_nests _ _ _ fun _ => .line trivial

theorem fieldGroup_nests (g : FieldGroup) : (fieldGroup g).Nests :=
  .block <| .block <| .forEach fun _ => .block <| .block <|
    .next (.line trivial) (.line trivial)

theorem databaseSide_nests (t : TypeMetadata) : (databaseSide t).Nests :=
  .next (property_nests _ _) <| .next (property_nests _ _) <|
    .next (.onlyIf (containerProperty_nests _ _ _ databaseField_nests))
      (containerProperty_nests _ _ _ databaseField_nests)

theorem querySide_nests (t : TypeMetadata) : (querySide t).Nests :=
  .next (queryFields_nests _ _) <| .next (queryFields_nests _ _) <|
    .next (queryFields_nests _ _) <| .next (listProperty_nests _ _ _) <|
    containerProperty_nests _ _ _ fieldGroup_nests

theorem typeEntry_nests (t : TypeMetadata) : (typeEntry t).Nests :=
  .block <| .next (property_nests _ _) <| .next (property_nests _ _) <|
    .next (.onlyIf (databaseSide_nests t)) (.onlyIf (querySide_nests t))

theorem typeEntries_nests (query store : List TypeMetadata) :
    (typeEntries query store).Nests := by
  rw [typeEntries]
  split
  · exact .pure ()
  · exact .next .sectionStart (.block (.block (.forEach typeEntry_nests)))

/-! ## Caches -/

theorem nearCacheBean_nests (id : Option String) (near : Option NearCacheConfig) :
    (nearCacheBean id near).Nests :=
  .block <| .forSome fun _ =>
    .next (property_nests _ _) (.discard (evictionPolicy_nests _ _))

theorem cacheLayout_nests (c : CacheConfig) : (cacheLayout c).Nests :=
  .next (property_nests _ _) <| .next (property_nests _ _) <|
    .next (.onlyIf (property_nests _ _)) <| .next (property_nests _ _) (property_nests _ _)

theorem cacheMemory_nests (c : CacheConfig) : (cacheMemory c).Nests :=
  .next (property_nests _ _) <| .next (property_nests _ _) <|
    .next (property_nests _ _) (property_nests _ _)

theorem cacheNear_nests (c : CacheConfig) : (cacheNear c).Nests :=
  .onlyIf (.next .sectionStart (.block (nearCacheBean_nests _ _)))

theorem cacheQueries_nests (c : CacheConfig) : (cacheQueries c).Nests :=
  .next (property_nests _ _) <| .next (property_nests _ _) <| .next (property_nests _ _) <|
    .next (listProperty_nests _ _ _) (listProperty_nests _ _ _)

theorem cacheRebalance_nests (c : CacheConfig) : (cacheRebalance c).Nests :=
  .onlyIf <| .next (property_nests _ _) <| .next (property_nests _ _) <|
    .next (property_nests _ _) <| .next (property_nests _ _) <| .next (property_nests _ _) <|
    .next (property_nests _ _) <| .next (property_nests _ _) .requestBlank

theorem cacheThrough_nests (c : CacheConfig) : (cacheThrough c).Nests :=
  .next (property_nests _ _) <| .next (property_nests _ _) (property_nests _ _)

theorem cacheLocking_nests (c : CacheConfig) : (cacheLocking c).Nests :=
  .next (property_nests _ _) <| .next (property_nests _ _) (property_nests _ _)

theorem cacheWriteBehind_nests (c : CacheConfig) : (cacheWriteBehind c).Nests :=
  .next (property_nests _ _) <| .next (property_nests _ _) <| .next (property_nests _ _) <|
    .next (property_nests _ _) (property_nests _ _)

theorem cacheStatistics_nests (c : CacheConfig) : (cacheStatistics c).Nests :=
  .next (property_nests _ _) (property_nests _ _)

/-- The bean of a cache nests; where a part of it fails, its own block is left open. -/
theorem cacheBean_nests (c : CacheConfig) : (cacheBean c).Nests :=
  .block <| .next (property_nests _ _) <| .next .requestBlank <|
    .next (cacheLayout_nests c) <| .next .requestBlank <|
    .next (cacheMemory_nests c) <| .next .requestBlank <|
    .next (.discard (evictionPolicy_nests _ _)) <| .next .requestBlank <|
    .next (cacheNear_nests c) <| .next .requestBlank <|
    .next (cacheQueries_nests c) <| .next .requestBlank <|
    .next (cacheRebalance_nests c) <|
    .next (.discard (storeFactory_nests _)) <| .next .requestBlank <|
    .next (cacheThrough_nests c) <| .next .requestBlank <|
    .next (cacheLocking_nests c) <| .next .requestBlank <|
    .next (cacheWriteBehind_nests c) <| .next .requestBlank <|
    .next (cacheStatistics_nests c) <| .next .requestBlank <|
    .next (property_nests _ _) (typeEntries_nests _ _)

/-! ## Nodes -/

theorem chosenPart_nests {part : Script Bool} (nests : part.Nests) : (chosenPart part).Nests :=
  .bind nests fun _ => .onlyIf .requestBlank

theorem nodeNetwork_nests (c : ClusterConfig) : (nodeNetwork c).Nests :=
  .next (property_nests _ _) <| .next (property_nests _ _) <| .next (property_nests _ _) <|
    .next (property_nests _ _) <| .next (property_nests _ _) (property_nests _ _)

theorem nodeMarshalling_nests (c : ClusterConfig) : (nodeMarshalling c).Nests :=
  .next (property_nests _ _) <| .next (property_nests _ _) (property_nests _ _)

theorem nodeMetrics_nests (c : ClusterConfig) : (nodeMetrics c).Nests :=
  .next (property_nests _ _) <| .next (property_nests _ _) <|
    .next (property_nests _ _) (property_nests _ _)

theorem nodeClassLoading_nests (c : ClusterConfig) : (nodeClassLoading c).Nests :=
  .next (property_nests _ _) <| .next (listProperty_nests _ _ _) <|
    .next (property_nests _ _) (property_nests _ _)

theorem nodeTime_nests (c : ClusterConfig) : (nodeTime c).Nests :=
  .next (property_nests _ _) <| .next (property_nests _ _) <|
    .next (property_nests _ _) (property_nests _ _)

theorem nodeThreadPools_nests (c : ClusterConfig) : (nodeThreadPools c).Nests :=
  .next (property_nests _ _) <| .next (property_nests _ _) <|
    .next (property_nests _ _) (property_nests _ _)

theorem nodeCaches_nests (caches : List CacheConfig) : (nodeCaches caches).Nests := by
  rw [nodeCaches]
  split
  · exact .pure ()
  · exact .next .sectionStart (.block (.block (.forEachSpaced cacheBean_nests)))

theorem nodeProperties_nests (c : ClusterConfig) (client : Bool) :
    (nodeProperties c client).Nests :=
  .next (.onlyIf (.next (property_nests _ _) .requestBlank)) <|
    .next (.forSome fun d => .next (discovery_nests d) .requestBlank) <|
    .next (shapedBean_nests _ _ _ _) <| .next .requestBlank <|
    .next (nodeNetwork_nests c) <| .next .requestBlank <|
    .next (property_nests _ _) <| .next .requestBlank <|
    .next (eventTypes_nests _) <|
    .next (chosenPart_nests (marshaller_nests _)) <|
    .next (nodeMarshalling_nests c) <| .next .requestBlank <|
    .next (nodeMetrics_nests c) <| .next .requestBlank <|
    .next (nodeClassLoading_nests c) <| .next .requestBlank <|
    .next (chosenPart_nests (swapSpace_nests _)) <|
    .next (nodeTime_nests c) <| .next .requestBlank <|
    .next (nodeThreadPools_nests c) <| .next .requestBlank <|
    .next (shapedBean_nests _ _ _ _) <| .next .requestBlank <|
    nodeCaches_nests _

/-- The beans of a node nest, so that a document closes exactly the blocks it opens. -/
theorem nodeBeans_nests (c : ClusterConfig) (clientNear : Option NearCacheConfig) :
    (nodeBeans c clientNear).Nests :=
  .next (.forSome fun _ => .next (nearCacheBean_nests _ _) .blank)
    (.block (nodeProperties_nests c _))

/-- Every part of a document keeps the blocks of the sheet it is written on, whatever the sheet and
whether or not it succeeds, and so do the beans of a node, which end at the depth of the document if
they succeed. -/
theorem parts_keep_blocks (s : Sheet) :
    (∀ name container items, (listProperty name container items).KeepsBlocks s) ∧
      (∀ name shape members force, (shapedBean name shape members force).KeepsBlocks s) ∧
      (∀ d, (discovery d).KeepsBlocks s) ∧
      (∀ policy name, (evictionPolicy policy name).KeepsBlocks s) ∧
      (∀ factory, (storeFactory factory).KeepsBlocks s) ∧
      (∀ config, (marshaller config).KeepsBlocks s) ∧
      (∀ config, (swapSpace config).KeepsBlocks s) ∧
      (∀ names, (eventTypes names).KeepsBlocks s) ∧
      (∀ t, (typeEntry t).KeepsBlocks s) ∧
      (∀ query store, (typeEntries query store).KeepsBlocks s) ∧
      (∀ id near, (nearCacheBean id near).KeepsBlocks s) ∧
      (∀ c, (cacheBean c).KeepsBlocks s) ∧
      ∀ c clientNear, (nodeBeans c clientNear).KeepsBlocks s ∧
        ∀ u, (nodeBeans c clientNear).outcome = .ok u →
          ((nodeBeans c clientNear).runOn (Sheet.empty documentDepth)).cursor.depth = 1 :=
  ⟨fun name container items => (listProperty_nests name container items).keepsBlocks s,
    fun name shape members force => (shapedBean_nests name shape members force).keepsBlocks s,
    fun d => (discovery_nests d).keepsBlocks s,
    fun policy name => (evictionPolicy_nests policy name).keepsBlocks s,
    fun factory => (storeFactory_nests factory).keepsBlocks s,
    fun config => (marshaller_nests config).keepsBlocks s,
    fun config => (swapSpace_nests config).keepsBlocks s,
    fun names => (eventTypes_nests names).keepsBlocks s,
    fun t => (typeEntry_nests t).keepsBlocks s,
    fun query store => (typeEntries_nests query store).keepsBlocks s,
    fun id near => (nearCacheBean_nests id near).keepsBlocks s,
    fun c => (cacheBean_nests c).keepsBlocks s,
    fun c clientNear => ⟨(nodeBeans_nests c clientNear).keepsBlocks s, fun u succeeds =>
      (((nodeBeans_nests c clientNear).keepsBlocks (Sheet.empty documentDepth)).success u
        succeeds).1⟩⟩

-- A near cache whose eviction policy is not known fails inside its bean, which stays open.
example : ((nearCacheBean none (some ⟨none, some ⟨some "MRU", none, none, none, none⟩⟩)).runOn
    (Sheet.empty 2)).cursor.depth = 3 := by decide

end GridBeans.Generation
