import GridBeans.Generation.Property

/-!
# Type entries

The beans that describe types to a cache: how their fields are mapped to database columns, and
which of them can be queried.
-/
namespace GridBeans.Generation

open GridBeans.Markup GridBeans.Config GridBeans.Catalogue

def typeMetadataClass : String := "org.apache.ignite.cache.CacheTypeMetadata"

def typeFieldClass : String := "org.apache.ignite.cache.CacheTypeFieldMetadata"

def tupleClass : String := "org.apache.ignite.lang.IgniteBiTuple"

def constantTag (className name : String) : Piece :=
  .emptyTag "util:constant" [attr "static-field" (className ++ "." ++ name)]

def databaseField (f : DatabaseField) : Script Unit :=
  beanBlock typeFieldClass do
    property "databaseName" f.databaseName
    propertyBlock "databaseType" (.line (constantTag "java.sql.Types" f.databaseType))
    property "javaName" f.javaName
    classProperty "javaType" f.javaType

/-- A property around a container around what is written for each item, if there is any item. -/
def containerProperty {α : Type} (name container : String) (items : List α)
    (each : α → Script Unit) : Script Unit :=
  if items.isEmpty then pure ()
  else propertyBlock name (.block container [] (.forEach items each))

def databaseFields (name : String) (fields : List DatabaseField) : Script Unit :=
  containerProperty name "list" fields databaseField

/-- A map from field names to their classes. -/
def queryFields (name : String) (fields : List QueryField) : Script Unit :=
  containerProperty name "map" fields fun f =>
    .line (.emptyTag "entry" [attr "key" f.name, attr "value" (resolveClassName f.className)])

/-- One field of a group index: its class and its direction. -/
def groupField (f : GroupField) : Script Unit :=
  .block "entry" [attr "key" f.name]
    (beanBlock tupleClass do
      Script.line (.emptyTag "constructor-arg" [attr "value" (resolveClassName f.className)])
      Script.line
        (.emptyTag "constructor-arg" [⟨"value", PropertyValue.attributeValue f.direction⟩]))

def fieldGroup (g : FieldGroup) : Script Unit :=
  .block "entry" [attr "key" g.name] (.block "map" [] (.forEach g.fields groupField))

/-- The group indexes that have any field. -/
def fieldGroups (groups : List FieldGroup) : Script Unit :=
  containerProperty "groups" "map" (groups.filter fun g => !g.fields.isEmpty) fieldGroup

/-- The columns of the key are not written for a key of a Java library class. -/
def hasKeyColumns (keyType : Option String) : Bool :=
  match keyType with
  | some name => !isJavaClass name
  | none => true

/-- The table of a type and its columns. -/
def databaseSide (t : TypeMetadata) : Script Unit := do
  property "databaseSchema" t.databaseSchema
  property "databaseTable" t.databaseTable
  Script.onlyIf (hasKeyColumns t.keyType) (databaseFields "keyFields" t.keyFields)
  databaseFields "valueFields" t.valueFields

/-- The fields of a type that can be queried. -/
def querySide (t : TypeMetadata) : Script Unit := do
  queryFields "queryFields" t.queryFields
  queryFields "ascendingFields" t.ascendingFields
  queryFields "descendingFields" t.descendingFields
  listProperty "textFields" "list" t.textFields
  fieldGroups t.groups

/-- The description of one type. A kind that names one side leaves out the other one. -/
def typeEntry (t : TypeMetadata) : Script Unit :=
  beanBlock typeMetadataClass do
    classProperty "keyType" t.keyType
    property "valueType" t.valueType
    Script.onlyIf (t.kind ≠ some .query) (databaseSide t)
    Script.onlyIf (t.kind ≠ some .store) (querySide t)

/-- The entries whose name is none of the names seen and occurs for the first time. -/
def firstByName (seen : List String) : List TypeMetadata → List TypeMetadata
  | [] => []
  | t :: rest =>
    if seen.contains t.name then firstByName seen rest
    else t :: firstByName (t.name :: seen) rest

/-- The descriptions of all types, those for queries first; of several with one name, the first. -/
def typeEntries (query store : List TypeMetadata) : Script Unit :=
  if query.isEmpty && store.isEmpty then pure ()
  else do
    Script.sectionStart
    propertyBlock "typeMetadata"
      (.block "list" [] (.forEach (firstByName [] (query ++ store)) typeEntry))

end GridBeans.Generation
