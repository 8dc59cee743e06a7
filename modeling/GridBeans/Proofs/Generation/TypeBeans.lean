import GridBeans.Proofs.Effect
import GridBeans.Proofs.Generation.Lookup

/-!
# Beans of types

What a reader finds in the beans that describe the types of a cache: a bean for the first type of
each name, with the properties of those of its settings that are in effect. Columns, fields and
groups are looked up one by one in the containers that hold them.
-/
namespace GridBeans.Generation

open GridBeans.Xml GridBeans.Markup GridBeans.Config GridBeans.Catalogue

/-! ## Containers -/

/-- What stands in the containers that the properties of a name hold. -/
def heldItems (name : String) (bean : Node) : List Node :=
  (held name bean).flatMap Node.children

def valuesOf (name : String) (bean : Node) : List String :=
  (propertiesNamed name bean.children).filterMap (attribute? "value")

theorem valuesOf_of_written {α : Type} [PropertyValue α] {name : String} {value : Option α}
    {bean : Node} (written : Written name value bean) :
    valuesOf name bean = value.toList.map fun a => (PropertyValue.attributeValue a).text := by
  rw [valuesOf, written]
  cases value with
  | none => rfl
  | some a => simp [propertyNode, attribute?]

/-- A class is stated by its full name. -/
theorem valuesOf_of_class {name : String} {given : Option String} {bean : Node}
    (written : Written name (given.map resolveClassName) bean) :
    valuesOf name bean = given.toList.map resolveClassName := by
  rw [valuesOf_of_written written]
  cases given with
  | none => rfl
  | some className => rfl

/-- A container in a property has a node for each item. -/
theorem heldItems_container {α : Type} {name container : String} {bean : Node}
    {lines : α → List Line} {node : α → Node} {items : List α}
    (each : ∀ a, Makes (node a) (lines a))
    (property : propertiesNamed name bean.children =
      nodesOf (containerLines name container (items.flatMap lines))) :
    heldItems name bean = items.map node := by
  obtain ⟨whole, nodes⟩ := makes_flatMap each items
  rw [heldItems, held, property, items_containerLines _ _ whole, nodes]

theorem makes_element {lines : List Line} (element : String)
    (attributes : List Attribute) (whole : WholeLines lines) :
    Makes (.element element (attributes.map Attribute.stated) (nodesOf lines))
      (elementLines element attributes lines) :=
  ⟨whole.element _ _, nodesOf_elementLines _ _ whole⟩

/-! ## The parts of a type -/

/-- The properties of a type whose settings are all in effect. -/
def typeParts (t : TypeMetadata) : List (List Line) :=
  [ classLines "keyType" t.keyType,
    propertyLines "valueType" t.valueType,
    propertyLines "databaseSchema" t.databaseSchema,
    propertyLines "databaseTable" t.databaseTable,
    databaseFieldsLines "keyFields" t.keyFields,
    databaseFieldsLines "valueFields" t.valueFields,
    queryFieldsLines "queryFields" t.queryFields,
    queryFieldsLines "ascendingFields" t.ascendingFields,
    queryFieldsLines "descendingFields" t.descendingFields,
    listLines "textFields" "list" t.textFields,
    containerLines "groups" "map"
      ((t.groups.filter fun g => !g.fields.isEmpty).flatMap fieldGroupLines) ]

/-- The names of the properties, part by part. -/
def typeNames : List (List String) :=
  ("keyType" :: "valueType" :: (databaseNames ++ queryNames)).map fun name => [name]

/-- The parts of a type write one property each, in a fixed order. -/
theorem typeParts_lists (t : TypeMetadata) : List.Forall₂ Lists typeNames (typeParts t) :=
  .cons (propertyLines_lists _ _) <| .cons (propertyLines_lists _ _) <|
  .cons (propertyLines_lists _ _) <| .cons (propertyLines_lists _ _) <|
  .cons (databaseFieldsLines_lists _ _) <| .cons (databaseFieldsLines_lists _ _) <|
  .cons (queryFieldsLines_lists _ _) <| .cons (queryFieldsLines_lists _ _) <|
  .cons (queryFieldsLines_lists _ _) <| .cons (listLines_lists _ _) <|
  .cons (groupsLines_lists _) .nil

/-- A type is written from what is in effect of it, part by part. -/
theorem typeEntryLines_eq (t : TypeMetadata) :
    typeEntryLines t = beanAround typeMetadataClass (typeParts t.effective).flatten := by
  have key := hasKeyColumns_eq t.keyType
  have database : (if t.kind ≠ some .query then databaseSideLines t else []) =
      propertyLines "databaseSchema" t.effective.databaseSchema ++
        propertyLines "databaseTable" t.effective.databaseTable ++
        databaseFieldsLines "keyFields" t.effective.keyFields ++
        databaseFieldsLines "valueFields" t.effective.valueFields := by
    by_cases stored : t.kind = some .query
    · simp [stored, TypeMetadata.effective, onlyWhen, propertyLines, databaseFieldsLines,
        containerLines, pieceLines]
    · cases java : t.keyType.any isJavaClass with
      | true => simp [stored, java, key, TypeMetadata.effective, onlyWhen, databaseSideLines,
          databaseFieldsLines, containerLines]
      | false => simp [stored, java, key, TypeMetadata.effective, onlyWhen, databaseSideLines]
  have query : (if t.kind ≠ some .store then querySideLines t else []) =
      querySideLines t.effective := by
    by_cases queried : t.kind = some .store
    · simp [queried, TypeMetadata.effective, querySideLines, queryFieldsLines, listLines,
        containerLines, pieceLines]
    · simp [queried, TypeMetadata.effective, querySideLines]
  rw [typeEntryLines, database, query]
  simp only [typeParts, querySideLines, List.flatten_cons, List.flatten_nil, List.append_assoc,
    List.append_nil]
  rfl

def typeNode (t : TypeMetadata) : Node :=
  beanNode typeMetadataClass (typeParts t.effective).flatten

/-- The lines of a type are a single node, of which the rules for types speak. -/
theorem typeEntryLines_makes (t : TypeMetadata) : Makes (typeNode t) (typeEntryLines t) := by
  refine ⟨(typeEntryLines_shows t).whole, ?_⟩
  have whole := (Lists.spaced (typeParts_lists t.effective)).whole
  rw [WholeLines, filterMap_piece?_spaced] at whole
  rw [typeEntryLines_eq]
  exact nodesOf_beanAround _ whole

/-- A property of a type is looked for in the part that lists its name. -/
theorem type_propertiesNamed (name : String) (t : TypeMetadata) :
    propertiesNamed name (typeNode t).children =
      ((typeNames.zip (typeParts t.effective)).filter fun part => name ∈ part.1).flatMap fun part =>
        propertiesNamed name (nodesOf part.2) := by
  rw [← propertiesNamed_spaced (typeParts_lists t.effective), nodesOf_spaced]
  rfl

/-- A property of a name is all there is in the part that lists it alone. -/
theorem type_fields (t : TypeMetadata) :
    propertiesNamed "keyFields" (typeNode t).children =
        nodesOf (databaseFieldsLines "keyFields" t.effective.keyFields) ∧
      propertiesNamed "valueFields" (typeNode t).children =
        nodesOf (databaseFieldsLines "valueFields" t.effective.valueFields) ∧
      propertiesNamed "queryFields" (typeNode t).children =
        nodesOf (queryFieldsLines "queryFields" t.effective.queryFields) ∧
      propertiesNamed "ascendingFields" (typeNode t).children =
        nodesOf (queryFieldsLines "ascendingFields" t.effective.ascendingFields) ∧
      propertiesNamed "descendingFields" (typeNode t).children =
        nodesOf (queryFieldsLines "descendingFields" t.effective.descendingFields) := by
  rw [← (databaseFieldsLines_lists "keyFields" t.effective.keyFields).alone,
    ← (databaseFieldsLines_lists "valueFields" t.effective.valueFields).alone,
    ← (queryFieldsLines_lists "queryFields" t.effective.queryFields).alone,
    ← (queryFieldsLines_lists "ascendingFields" t.effective.ascendingFields).alone,
    ← (queryFieldsLines_lists "descendingFields" t.effective.descendingFields).alone]
  refine ⟨?_, ?_, ?_, ?_, ?_⟩
  all_goals
    rw [type_propertiesNamed]
    simp [typeNames, typeParts, databaseNames, queryNames]

/-- The groups of a type that have a field stand in one map. -/
theorem type_groups (t : TypeMetadata) :
    propertiesNamed "groups" (typeNode t).children =
      nodesOf (containerLines "groups" "map"
        ((t.effective.groups.filter fun g => !g.fields.isEmpty).flatMap fieldGroupLines)) := by
  rw [← (groupsLines_lists _).alone, type_propertiesNamed]
  simp [typeNames, typeParts, databaseNames, queryNames]

/-- The classes of the key and of the values of a type. -/
theorem type_classes (t : TypeMetadata) :
    Written "keyType" (t.keyType.map resolveClassName) (typeNode t) ∧
      Written "valueType" t.valueType (typeNode t) := by
  refine ⟨?_, ?_⟩
  all_goals
    rw [Written, type_propertiesNamed]
    simp [typeNames, typeParts, databaseNames, queryNames, classLines, propertiesNamed_property,
      TypeMetadata.effective]

/-- The table of a type and the fields that are searched for words. -/
theorem type_tables (t : TypeMetadata) :
    Written "databaseSchema" t.effective.databaseSchema (typeNode t) ∧
      Written "databaseTable" t.effective.databaseTable (typeNode t) ∧
      propertiesNamed "textFields" (typeNode t).children =
        nodesOf (listLines "textFields" "list" t.effective.textFields) := by
  rw [← (listLines_lists "textFields" t.effective.textFields).alone]
  refine ⟨?_, ?_, ?_⟩
  · rw [Written, type_propertiesNamed]
    simp [typeNames, typeParts, databaseNames, queryNames, propertiesNamed_property]
  · rw [Written, type_propertiesNamed]
    simp [typeNames, typeParts, databaseNames, queryNames, propertiesNamed_property]
  · rw [type_propertiesNamed]
    simp [typeNames, typeParts, databaseNames, queryNames]

/-! ## Columns, fields and groups -/

def columnNode (f : DatabaseField) : Node :=
  beanNode typeFieldClass <|
    propertyLines "databaseName" f.databaseName ++
    propertyAround "databaseType" (pieceLines [constantTag "java.sql.Types" f.databaseType]) ++
    propertyLines "javaName" f.javaName ++
    classLines "javaType" f.javaType

theorem databaseTypeLines_lists (f : DatabaseField) : Lists ["databaseType"]
    (propertyAround "databaseType" (pieceLines [constantTag "java.sql.Types" f.databaseType])) :=
  propertyAround_lists _ (constantTag_shows _ _ (by decide))

theorem databaseFieldLines_makes (f : DatabaseField) :
    Makes (columnNode f) (databaseFieldLines f) := by
  refine makes_element "bean" _ (.append (.append (.append ?_ ?_) ?_) ?_)
  · exact wholeLines_property _ _
  · exact (databaseTypeLines_lists f).whole
  · exact wholeLines_property _ _
  · exact wholeLines_property _ _

/-- A property of a column is looked for in each of its lines. -/
theorem column_propertiesNamed (name : String) (f : DatabaseField) :
    propertiesNamed name (columnNode f).children =
      propertiesNamed name (nodesOf (propertyLines "databaseName" f.databaseName)) ++
        propertiesNamed name (nodesOf (propertyAround "databaseType"
          (pieceLines [constantTag "java.sql.Types" f.databaseType]))) ++
        propertiesNamed name (nodesOf (propertyLines "javaName" f.javaName)) ++
        propertiesNamed name (nodesOf (classLines "javaType" f.javaType)) := by
  rw [columnNode, beanNode, Node.children]
  rw [propertiesNamed_next, propertiesNamed_next, propertiesNamed_next]
  · exact wholeLines_property _ _
  · exact (wholeLines_property _ _).append (databaseTypeLines_lists f).whole
  · exact ((wholeLines_property _ _).append (databaseTypeLines_lists f).whole).append
      (wholeLines_property _ _)

/-- The class of a column is written with its qualified name. -/
theorem column_class (f : DatabaseField) :
    Written "javaType" (f.javaType.map resolveClassName) (columnNode f) := by
  rw [Written, column_propertiesNamed, (databaseTypeLines_lists f).absent (by decide)]
  simp [classLines, propertiesNamed_property]

/-- The other settings of a column. -/
theorem column_settings (f : DatabaseField) :
    Written "databaseName" f.databaseName (columnNode f) ∧
      Written "javaName" f.javaName (columnNode f) ∧
      propertiesNamed "databaseType" (columnNode f).children =
        nodesOf (propertyAround "databaseType"
          (pieceLines [constantTag "java.sql.Types" f.databaseType])) := by
  refine ⟨?_, ?_, ?_⟩
  · rw [Written, column_propertiesNamed, (databaseTypeLines_lists f).absent (by decide)]
    simp [classLines, propertiesNamed_property]
  · rw [Written, column_propertiesNamed, (databaseTypeLines_lists f).absent (by decide)]
    simp [classLines, propertiesNamed_property]
  · rw [column_propertiesNamed, (databaseTypeLines_lists f).alone]
    simp [classLines, propertiesNamed_property]

def queryFieldNode (f : QueryField) : Node :=
  .element "entry" [("key", f.name), ("value", resolveClassName f.className)] []

/-- A map of fields that can be queried has an entry for each field, in order. -/
theorem queryFieldsLines_items {name : String} {bean : Node} {fields : List QueryField}
    (property : propertiesNamed name bean.children = nodesOf (queryFieldsLines name fields)) :
    heldItems name bean = fields.map queryFieldNode := by
  have entry : ∀ f : QueryField, Makes (queryFieldNode f) (pieceLines [.emptyTag "entry"
      [attr "key" f.name, attr "value" (resolveClassName f.className)]]) :=
    fun f => ⟨Whole.emptyTag _ _, rfl⟩
  rw [queryFieldsLines, pieceLines_map] at property
  exact heldItems_container entry property

/-- The entry of a field of a group index, around its class and its direction. -/
def groupFieldNode (f : GroupField) : Node :=
  .element "entry" [("key", f.name)] [.element "bean" [("class", tupleClass)]
    [.element "constructor-arg" [("value", resolveClassName f.className)] [],
      .element "constructor-arg" [("value", if f.direction then "true" else "false")] []]]

/-- The entry of a group index, around the map of its fields. -/
def fieldGroupNode (g : FieldGroup) : Node :=
  .element "entry" [("key", g.name)] [.element "map" [] (g.fields.map groupFieldNode)]

theorem groupFieldLines_makes (f : GroupField) : Makes (groupFieldNode f) (groupFieldLines f) :=
  ⟨(groupFieldLines_shows f).whole, rfl⟩

theorem fieldGroupLines_makes (g : FieldGroup) : Makes (fieldGroupNode g) (fieldGroupLines g) := by
  obtain ⟨whole, nodes⟩ := makes_flatMap groupFieldLines_makes g.fields
  refine ⟨(fieldGroupLines_shows g).whole, ?_⟩
  rw [fieldGroupLines, nodesOf_elementLines _ _ (whole.element _ _),
    nodesOf_elementLines _ _ whole, nodes]
  rfl

def itemNode (text : String) : Node :=
  .element "value" [] [.text text]

/-- The items of a list are found in order. -/
theorem listLines_items {name : String} {bean : Node} {items : List String}
    (property : propertiesNamed name bean.children = nodesOf (listLines name "list" items)) :
    heldItems name bean = items.map itemNode := by
  have item : ∀ text, Makes (itemNode text) (pieceLines [valueLeaf text]) :=
    fun text => ⟨Whole.leaf _ _ _, rfl⟩
  rw [listLines, pieceLines_map] at property
  exact heldItems_container item property

/-- Under each of its properties a type has the columns, fields and groups that count, in order. -/
theorem type_items (t : TypeMetadata) :
    heldItems "keyFields" (typeNode t) = t.effective.keyFields.map columnNode ∧
      heldItems "valueFields" (typeNode t) = t.effective.valueFields.map columnNode ∧
      heldItems "queryFields" (typeNode t) = t.effective.queryFields.map queryFieldNode ∧
      heldItems "ascendingFields" (typeNode t) = t.effective.ascendingFields.map queryFieldNode ∧
      heldItems "descendingFields" (typeNode t) = t.effective.descendingFields.map queryFieldNode ∧
      heldItems "groups" (typeNode t) =
        (t.effective.groups.filter fun g => !g.fields.isEmpty).map fieldGroupNode := by
  obtain ⟨keys, values, queried, ascending, descending⟩ := type_fields t
  exact ⟨heldItems_container databaseFieldLines_makes keys,
    heldItems_container databaseFieldLines_makes values, queryFieldsLines_items queried,
    queryFieldsLines_items ascending, queryFieldsLines_items descending,
    heldItems_container fieldGroupLines_makes (type_groups t)⟩

end GridBeans.Generation
