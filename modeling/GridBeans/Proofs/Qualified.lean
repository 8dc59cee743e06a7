import GridBeans.Proofs.Catalogue.Names
import GridBeans.Proofs.Config.Qualified
import GridBeans.Proofs.Effect

/-!
# Results of class names

A class may be given by its short or by its full name: no generated text tells the two apart. The
name of a key also decides whether its columns are written, and does so by the class it stands for.
-/
namespace GridBeans.Generation

open GridBeans.Config GridBeans.Catalogue

/-! ## Types -/

/-- A class property is written with the resolved name, so resolving it beforehand changes nothing.
-/
theorem classProperty_resolved (name : String) (className : Option String) :
    classProperty name (className.map resolveClassName) = classProperty name className := by
  cases className with
  | none => rfl
  | some given => simp only [classProperty, Option.map_some, resolveClassName_resolved]

/-- The items of a container can be changed if what is written for each of them stays. -/
theorem containerProperty_map {α : Type} {change : α → α} {each : α → Script Unit}
    (same : ∀ a, each (change a) = each a) (name container : String) (items : List α) :
    containerProperty name container (items.map change) each =
      containerProperty name container items each := by
  simp only [containerProperty, List.isEmpty_map, forEach_map, same]

/-- The class of a column is resolved when the column is written, so either name gives the same
script. -/
theorem databaseField_qualified (f : DatabaseField) :
    databaseField f.qualified = databaseField f := by
  simp only [databaseField, DatabaseField.qualified, classProperty_resolved]

theorem databaseFields_qualified (name : String) (fields : List DatabaseField) :
    databaseFields name (fields.map DatabaseField.qualified) = databaseFields name fields :=
  containerProperty_map databaseField_qualified name "list" fields

theorem queryFields_qualified (name : String) (fields : List QueryField) :
    queryFields name (fields.map QueryField.qualified) = queryFields name fields :=
  containerProperty_map
    (fun f => by simp only [QueryField.qualified, resolveClassName_resolved]) name "map" fields

theorem groupField_qualified (f : GroupField) : groupField f.qualified = groupField f := by
  simp only [groupField, GroupField.qualified, resolveClassName_resolved]

theorem fieldGroup_qualified (g : FieldGroup) : fieldGroup g.qualified = fieldGroup g := by
  simp only [fieldGroup, FieldGroup.qualified, forEach_map, groupField_qualified]

/-- A group keeps the number of its fields, so the groups that have any stay the same ones. -/
theorem fieldGroups_qualified (groups : List FieldGroup) :
    fieldGroups (groups.map FieldGroup.qualified) = fieldGroups groups := by
  have kept : ((groups.map FieldGroup.qualified).filter fun g => !g.fields.isEmpty) =
      (groups.filter fun g => !g.fields.isEmpty).map FieldGroup.qualified := by
    simp only [List.filter_map, Function.comp_def, FieldGroup.qualified, List.isEmpty_map]
  rw [fieldGroups, kept, containerProperty_map fieldGroup_qualified, ← fieldGroups]

/-- Whether key columns are written depends on the class of the key, not on which of its names is
given. -/
theorem hasKeyColumns_resolved (keyType : Option String) :
    hasKeyColumns (keyType.map resolveClassName) = hasKeyColumns keyType := by
  cases keyType with
  | none => rfl
  | some name => simp only [Option.map_some, hasKeyColumns, isJavaClass_resolved]

theorem databaseSide_qualified (t : TypeMetadata) : databaseSide t.qualified = databaseSide t := by
  simp only [databaseSide, TypeMetadata.qualified, hasKeyColumns_resolved, databaseFields_qualified]

theorem querySide_qualified (t : TypeMetadata) : querySide t.qualified = querySide t := by
  simp only [querySide, TypeMetadata.qualified, queryFields_qualified, fieldGroups_qualified]

/-- A type is the same script with qualified names in all slots that are resolved; the class of its
values stays. -/
theorem typeEntry_qualified (t : TypeMetadata) : typeEntry t.qualified = typeEntry t := by
  have key : classProperty "keyType" t.qualified.keyType = classProperty "keyType" t.keyType :=
    classProperty_resolved _ _
  rw [typeEntry, key, databaseSide_qualified, querySide_qualified]
  rfl

theorem typeEntries_qualified (query store : List TypeMetadata) :
    typeEntries (query.map TypeMetadata.qualified) (store.map TypeMetadata.qualified) =
      typeEntries query store := by
  have named : ∀ t : TypeMetadata, t.qualified.name = t.name := fun _ => rfl
  simp only [typeEntries_eq, ← List.map_append, List.isEmpty_map, firstOfName_map named,
    forEach_map, typeEntry_qualified]

/-! ## Caches and nodes -/

theorem indexedClasses_qualified (types : List IndexedType) :
    indexedClasses (types.map IndexedType.qualified) = indexedClasses types := by
  simp only [indexedClasses, List.flatMap_map, IndexedType.qualified, resolveClassName_resolved]

theorem cacheQueries_qualified (c : CacheConfig) : cacheQueries c.qualified = cacheQueries c := by
  simp only [cacheQueries, CacheConfig.qualified, indexedClasses_qualified]

/-- The bean of a cache is the same script once every resolved slot of its types has the qualified
name. -/
theorem cacheBean_qualified (c : CacheConfig) : cacheBean c.qualified = cacheBean c := by
  have types : typeEntries c.qualified.queryMetadata c.qualified.storeMetadata =
      typeEntries c.queryMetadata c.storeMetadata := typeEntries_qualified _ _
  rw [cacheBean, cacheProperties, cacheQueries_qualified, types]
  rfl

/-- The beans of a node do not depend on which name of a known class a description uses. -/
theorem nodeBeans_qualified (c : ClusterConfig) (clientNear : Option NearCacheConfig) :
    nodeBeans c.qualified clientNear = nodeBeans c clientNear := by
  have caches : nodeCaches c.qualified.caches = nodeCaches c.caches :=
    nodeCaches_map cacheBean_qualified _
  rw [nodeBeans, nodeProperties, caches]
  rfl

end GridBeans.Generation

namespace GridBeans

open GridBeans.Config GridBeans.Catalogue GridBeans.Generation

/-! ## Two descriptions -/

/-- Two descriptions that differ only in how they name classes have the same documents and the same
properties, and fail alike. Any class can so be given by its full name instead, which resolves to
itself and is that of a Java library class exactly if the name given was one for such a class. -/
theorem same_classes_same_results :
    (∀ c d : ClusterConfig, c.qualified = d.qualified →
      ∀ (clientNear : Option NearCacheConfig) (options : DocumentOptions),
        clusterDocument c clientNear options = clusterDocument d clientNear options ∧
          secretProperties c = secretProperties d) ∧
      (∀ c d : CacheConfig, c.qualified = d.qualified → cacheDocument c = cacheDocument d) ∧
        (∀ name, resolveClassName (resolveClassName name) = resolveClassName name) ∧
          ∀ name, isJavaClass name = true ↔ resolveClassName name ∈ javaFullNames := by
  refine ⟨fun c d same clientNear options => ?_, fun c d same => ?_, resolveClassName_resolved,
    isJavaClass_iff⟩
  · have sameBeans : ∀ near, nodeBeans c near = nodeBeans d near := fun near => by
      rw [← nodeBeans_qualified c, same, nodeBeans_qualified]
    refine ⟨?_, ?_⟩
    · rw [clusterDocument, sameBeans, ← clusterDocument]
    · rw [secretProperties, sameBeans, ← secretProperties]
  · have sameBean : cacheBean c = cacheBean d := by
      rw [← cacheBean_qualified c, same, cacheBean_qualified]
    rw [cacheDocument, sameBean, ← cacheDocument]

/-- A cache whose types are all given by short names. -/
def shortCache : CacheConfig :=
  { CacheConfig.unset with
    indexedTypes := [⟨"Integer", "UUID"⟩]
    queryMetadata := [
      { namedType "Person" .both with
        keyType := some "Integer"
        keyFields := [⟨some "ID", "INTEGER", some "id", some "int"⟩]
        valueFields := [⟨some "AGE", "INTEGER", some "age", some "Integer"⟩]
        queryFields := [⟨"id", "Integer"⟩, ⟨"born", "Date"⟩]
        ascendingFields := [⟨"age", "Integer"⟩]
        descendingFields := [⟨"born", "Date"⟩]
        groups := [⟨"index", [⟨"age", "Integer", true⟩, ⟨"born", "Date", false⟩]⟩] }] }

/-- The same cache with some of the full names instead. -/
def mixedCache : CacheConfig :=
  { shortCache with
    indexedTypes := [⟨"java.lang.Integer", "UUID"⟩]
    queryMetadata := [
      { namedType "Person" .both with
        keyType := some "java.lang.Integer"
        keyFields := [⟨some "ID", "INTEGER", some "id", some "int"⟩]
        valueFields := [⟨some "AGE", "INTEGER", some "age", some "java.lang.Integer"⟩]
        queryFields := [⟨"id", "Integer"⟩, ⟨"born", "java.sql.Date"⟩]
        ascendingFields := [⟨"age", "java.lang.Integer"⟩]
        descendingFields := [⟨"born", "Date"⟩]
        groups := [
          ⟨"index", [⟨"age", "Integer", true⟩, ⟨"born", "java.sql.Date", false⟩]⟩] }] }

/-- Two caches that name the same classes, one by short names only, have the same bean and the same
document. -/
theorem mixedCache_as_short :
    mixedCache ≠ shortCache ∧ mixedCache.qualified = shortCache.qualified ∧
      cacheDocument mixedCache = cacheDocument shortCache ∧
        clusterDocument { ClusterConfig.unset with caches := [mixedCache] } none .default =
          clusterDocument { ClusterConfig.unset with caches := [shortCache] } none .default := by
  have same : mixedCache.qualified = shortCache.qualified := by decide
  obtain ⟨clusters, caches, -⟩ := same_classes_same_results
  refine ⟨by decide, same, caches _ _ same, (clusters _ _ ?_ none .default).1⟩
  show ClusterConfig.qualified _ = ClusterConfig.qualified _
  simp only [ClusterConfig.qualified, List.map_cons, same, List.map_nil]

end GridBeans
