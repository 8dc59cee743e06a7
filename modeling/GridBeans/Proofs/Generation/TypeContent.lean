import GridBeans.Proofs.Generation.ReadBack
import GridBeans.Proofs.Generation.TypeBeans
import GridBeans.Proofs.Qualified

/-!
# The content of a type

What the bean of a type tells of the description it is written from: everything that is in effect
except the name, with classes by their full names and without the groups that have no field. All of
it is read back from the text, so two types are written alike only if they have the same content;
and as nothing else is written, types with the same content are written alike.
-/
namespace GridBeans.Config

open GridBeans.Catalogue

/-- What is written of a type. A section that is not written is empty. -/
structure TypeContent where
  keyType : Option String
  valueType : Option String
  databaseSchema : Option String
  databaseTable : Option String
  keyFields : List DatabaseField
  valueFields : List DatabaseField
  queryFields : List QueryField
  ascendingFields : List QueryField
  descendingFields : List QueryField
  textFields : List String
  groups : List FieldGroup
  deriving DecidableEq, Repr

def TypeMetadata.content (t : TypeMetadata) : TypeContent where
  keyType := t.effective.qualified.keyType
  valueType := t.effective.qualified.valueType
  databaseSchema := t.effective.qualified.databaseSchema
  databaseTable := t.effective.qualified.databaseTable
  keyFields := t.effective.qualified.keyFields
  valueFields := t.effective.qualified.valueFields
  queryFields := t.effective.qualified.queryFields
  ascendingFields := t.effective.qualified.ascendingFields
  descendingFields := t.effective.qualified.descendingFields
  textFields := t.effective.qualified.textFields
  groups := t.effective.qualified.groups.filter fun g => !g.fields.isEmpty

/-- Leaving out what has no effect a second time leaves out nothing more. -/
theorem TypeMetadata.effective_effective (t : TypeMetadata) :
    t.effective.effective = t.effective := by
  grind [TypeMetadata.effective, onlyWhen]

/-- What is in effect of a type does not depend on how its classes are named. -/
theorem TypeMetadata.effective_qualified (t : TypeMetadata) :
    t.qualified.effective = t.effective.qualified := by
  have java : t.qualified.keyType.any isJavaClass = t.keyType.any isJavaClass := by
    simp [TypeMetadata.qualified, Option.any_map, isJavaClass_resolved]
  have kind : t.qualified.kind = t.kind := rfl
  rw [TypeMetadata.effective, TypeMetadata.effective, java, kind]
  simp [TypeMetadata.qualified, apply_ite (List.map DatabaseField.qualified),
    apply_ite (List.map QueryField.qualified), apply_ite (List.map FieldGroup.qualified)]

end GridBeans.Config

namespace GridBeans.Generation

open GridBeans.Xml GridBeans.Markup GridBeans.Config GridBeans.Catalogue

/-! ## Reading text -/

/-- The nodes that a text consists of, with blanks ahead of the first one. -/
def readFragment (text : String) : Option (List Node) := do
  let items ← scanItems (text.toList.dropWhile isSpace)
  readNodes items [] []

/-- The text of lines is read back as the nodes on them, at whatever depth the lines stand. -/
theorem readFragment_renderLines {lines : List Line} (whole : WholeLines lines)
    (proper : ∀ p ∈ lines.filterMap Line.piece?, p.Proper fun _ => True) :
    readFragment (renderLines lines) = some (nodesOf lines) := by
  obtain ⟨leadBlank, blank⟩ := placed_blank lines
  have pieces := placed_pieces lines
  have properPlaces := proper_of_pieces pieces proper
  have reads := whole.reads (placed lines).2 pieces
    (fun q mem => ⟨properPlaces q mem, blank q mem⟩) [] [] []
  rw [List.append_nil] at reads
  rw [readFragment, renderLines_toList lines proper,
    dropWhile_run leadBlank (stopsAt_space_writeItems _),
    scanItems_write _ (placedItems_readable properPlaces blank)]
  exact reads

/-- How deep lines stand and how they are spaced make no difference to what is read of them. -/
theorem readFragment_of_pieces {lines text : List Line}
    (pieces : text.filterMap Line.piece? = lines.filterMap Line.piece?) (whole : WholeLines lines)
    (proper : ∀ p ∈ lines.filterMap Line.piece?, p.Proper fun _ => True) :
    readFragment (renderLines text) = some (nodesOf lines) := by
  have wholeText : WholeLines text := by
    rw [WholeLines, pieces]
    exact whole
  rw [readFragment_renderLines wholeText (pieces ▸ proper), nodesOf, pieces, ← nodesOf]

/-! ## Reading a type -/

def valueOf? (name : String) (bean : Node) : Option String :=
  (valuesOf name bean).head?

/-- What is behind the class in the name of a constant. -/
def readConstant (className : String) (node : Node) : Option String :=
  (attribute? "static-field" node).map fun constant =>
    String.ofList (constant.toList.drop (className ++ ".").toList.length)

def readColumn (bean : Node) : Option DatabaseField := do
  let constant ← (held "databaseType" bean).head?
  let databaseType ← readConstant "java.sql.Types" constant
  some ⟨valueOf? "databaseName" bean, databaseType, valueOf? "javaName" bean,
    valueOf? "javaType" bean⟩

def readQueryField (entry : Node) : Option QueryField := do
  let name ← attribute? "key" entry
  let className ← attribute? "value" entry
  some ⟨name, className⟩

def readGroupField (entry : Node) : Option GroupField := do
  let name ← attribute? "key" entry
  match (entry.children.flatMap Node.children).filterMap (attribute? "value") with
  | [className, direction] => some ⟨name, className, direction == "true"⟩
  | _ => none

def readFieldGroup (entry : Node) : Option FieldGroup := do
  let name ← attribute? "key" entry
  some ⟨name, (entry.children.flatMap Node.children).filterMap readGroupField⟩

def readItemText (item : Node) : Option String :=
  match item.children with
  | [.text text] => some text
  | _ => none

def readContent (bean : Node) : TypeContent where
  keyType := valueOf? "keyType" bean
  valueType := valueOf? "valueType" bean
  databaseSchema := valueOf? "databaseSchema" bean
  databaseTable := valueOf? "databaseTable" bean
  keyFields := (heldItems "keyFields" bean).filterMap readColumn
  valueFields := (heldItems "valueFields" bean).filterMap readColumn
  queryFields := (heldItems "queryFields" bean).filterMap readQueryField
  ascendingFields := (heldItems "ascendingFields" bean).filterMap readQueryField
  descendingFields := (heldItems "descendingFields" bean).filterMap readQueryField
  textFields := (heldItems "textFields" bean).filterMap readItemText
  groups := (heldItems "groups" bean).filterMap readFieldGroup

/-! ## Each part is read back -/

theorem valueOf?_of_written {name : String} {value : Option String} {bean : Node}
    (written : Written name value bean) : valueOf? name bean = value := by
  rw [valueOf?, valuesOf_of_written written]
  cases value with
  | none => rfl
  | some text => rfl

/-- Nodes that are read back one by one are read back in order. -/
theorem filterMap_read {α β : Type} {node : α → Node} {read : Node → Option β} {known : α → β}
    (each : ∀ a, read (node a) = some (known a)) (items : List α) :
    (items.map node).filterMap read = items.map known := by
  rw [List.filterMap_map, ← List.filterMap_eq_map]
  exact List.filterMap_congr fun a _ => each a

/-- A constant is read back by taking the class off its front. -/
theorem readConstant_of (className name : String) :
    readConstant className
      (.element "util:constant" [("static-field", className ++ "." ++ name)] []) = some name := by
  simp [readConstant, attribute?, List.drop_append]

/-- A column is read back from its bean, with its class resolved. -/
theorem readColumn_columnNode (f : DatabaseField) :
    readColumn (columnNode f) = some f.qualified := by
  obtain ⟨databaseName, javaName, databaseType⟩ := column_settings f
  have constant : held "databaseType" (columnNode f) = [.element "util:constant"
      [("static-field", "java.sql.Types" ++ "." ++ f.databaseType)] []] := by
    have whole : WholeLines (pieceLines [constantTag "java.sql.Types" f.databaseType]) :=
      Whole.emptyTag _ _
    rw [held, databaseType, children_propertyAround _ whole]
    rfl
  simp only [readColumn, constant, List.head?_cons, Option.bind_eq_bind, Option.bind_some,
    readConstant_of, valueOf?_of_written databaseName, valueOf?_of_written javaName,
    valueOf?_of_written (column_class f), DatabaseField.qualified]

theorem readQueryField_queryFieldNode (f : QueryField) :
    readQueryField (queryFieldNode f) = some f.qualified := rfl

theorem readGroupField_groupFieldNode (f : GroupField) :
    readGroupField (groupFieldNode f) = some f.qualified := by
  cases f with
  | mk name className direction =>
    cases direction <;> rfl

/-- A group index is read back with its fields, their classes resolved. -/
theorem readFieldGroup_fieldGroupNode (g : FieldGroup) :
    readFieldGroup (fieldGroupNode g) = some g.qualified := by
  have fields : (g.fields.map groupFieldNode).filterMap readGroupField =
      g.fields.map GroupField.qualified := filterMap_read readGroupField_groupFieldNode g.fields
  simp [readFieldGroup, fieldGroupNode, attribute?, Node.children, fields, FieldGroup.qualified]

/-- The content of a type is read from its bean: what counts of it, with classes resolved. -/
theorem readContent_typeNode (t : TypeMetadata) : readContent (typeNode t) = t.content := by
  obtain ⟨keyType, valueType⟩ := type_classes t
  obtain ⟨databaseSchema, databaseTable, listed⟩ := type_tables t
  obtain ⟨keys, values, queried, ascending, descending, groups⟩ := type_items t
  have columns := filterMap_read readColumn_columnNode
  have fields := filterMap_read readQueryField_queryFieldNode
  have texts : ∀ items : List String, (items.map itemNode).filterMap readItemText = items.map id :=
    filterMap_read fun _ => rfl
  have kept : t.effective.qualified.groups.filter (fun g => !g.fields.isEmpty) =
      (t.effective.groups.filter fun g => !g.fields.isEmpty).map FieldGroup.qualified := by
    simp only [TypeMetadata.qualified, List.filter_map, Function.comp_def, FieldGroup.qualified,
      List.isEmpty_map]
  rw [readContent, TypeMetadata.content, kept, keys, values, queried, ascending, descending,
    groups, listLines_items listed, columns, columns, fields, fields, fields, texts, List.map_id,
    filterMap_read readFieldGroup_fieldGroupNode, valueOf?_of_written keyType,
    valueOf?_of_written valueType, valueOf?_of_written databaseSchema,
    valueOf?_of_written databaseTable]
  rfl

/-! ## The text of a type -/

/-- On an empty sheet a type has its lines at no depth. -/
theorem lines_typeEntry_alone (t : TypeMetadata) :
    ((typeEntry t).runOn (Sheet.empty 0)).lines = typeEntryLines t :=
  (lines_typeEntry t (Sheet.empty 0)).trans (deeper_zero _)

theorem typeEntryLines_proper (t : TypeMetadata) :
    ∀ p ∈ (typeEntryLines t).filterMap Line.piece?, p.Proper fun _ => True := by
  rw [← lines_typeEntry_alone, Script.pieces_runOn]
  exact (typeEntry_proper (spelled_everything t)).pieces

/-- The content of a type, read from the text of its bean. -/
def readType (text : String) : Option TypeContent :=
  ((readFragment text).bind only).map readContent

/-- The content of a type is read back from its lines, at whatever depth these stand. -/
theorem readType_typeEntryLines (t : TypeMetadata) (depth : Nat) :
    readType (renderLines (deeper depth (typeEntryLines t))) = some t.content := by
  obtain ⟨whole, node⟩ := typeEntryLines_makes t
  rw [readType, readFragment_of_pieces (filterMap_piece?_deeper depth (typeEntryLines t)) whole
    (typeEntryLines_proper t), node]
  exact congrArg some (readContent_typeNode t)

/-- The lines of a type are those of what is in effect of it, with classes by their full names. -/
theorem typeEntryLines_normal (t : TypeMetadata) :
    typeEntryLines t =
      beanAround typeMetadataClass (typeParts t.effective.qualified).flatten := by
  have sameScript : typeEntry t.effective.qualified = typeEntry t := by
    rw [typeEntry_qualified, typeEntry_effective]
  rw [← lines_typeEntry_alone t, ← sameScript, lines_typeEntry_alone, typeEntryLines_eq,
    TypeMetadata.effective_qualified, TypeMetadata.effective_effective]

/-- Types with the same content have the same lines, since only content is written. -/
theorem typeEntryLines_of_content {t u : TypeMetadata} (same : t.content = u.content) :
    typeEntryLines t = typeEntryLines u := by
  simp only [TypeMetadata.content, TypeContent.mk.injEq] at same
  obtain ⟨keyType, valueType, databaseSchema, databaseTable, keyFields, valueFields, queryFields,
    ascendingFields, descendingFields, textFields, groups⟩ := same
  simp only [typeEntryLines_normal, typeParts, keyType, valueType, databaseSchema, databaseTable,
    keyFields, valueFields, queryFields, ascendingFields, descendingFields, textFields, groups]

/-- On any sheet, two types give the same lines, and the same text, exactly if they have the same
content: of a type nothing that counts is lost in what is written, and only that is written. -/
theorem same_type_text_iff (t u : TypeMetadata) (sheet : Sheet) :
    (((typeEntry t).runOn sheet).lines.map Line.render =
        ((typeEntry u).runOn sheet).lines.map Line.render ↔ t.content = u.content) ∧
      (((typeEntry t).runOn sheet).render = ((typeEntry u).runOn sheet).render ↔
        t.content = u.content) := by
  have sameLines : t.content = u.content →
      ((typeEntry t).runOn sheet).lines = ((typeEntry u).runOn sheet).lines := fun same => by
    rw [lines_typeEntry, lines_typeEntry, typeEntryLines_of_content same]
  -- The lines of the sheet are ahead of both texts, so what follows is the same and is read alike.
  have sameContent : ((typeEntry t).runOn sheet).render = ((typeEntry u).runOn sheet).render →
      t.content = u.content := fun same => by
    rw [Sheet.render, Sheet.render, lines_typeEntry, lines_typeEntry, renderLines_append,
      renderLines_append, String.append_right_inj] at same
    have read := readType_typeEntryLines t sheet.cursor.depth
    rw [same, readType_typeEntryLines] at read
    exact (Option.some.inj read).symm
  refine ⟨⟨fun same => sameContent ?_, fun same => congrArg _ (sameLines same)⟩,
    sameContent, fun same => congrArg renderLines (sameLines same)⟩
  have joined : ∀ lines : List Line,
      renderLines lines = String.join ((lines.map Line.render).map (· ++ "\n")) :=
    fun lines => by rw [renderLines, List.map_map, Function.comp_def]
  rw [Sheet.render, Sheet.render, joined, joined, same]

-- Neither the name, nor a side without settings, nor a short name of a class is told apart.
example : { namedType "Order" .query with keyType := some "Integer" }.content =
    { namedType "Item" .both with keyType := some "java.lang.Integer" }.content := by decide

end GridBeans.Generation
