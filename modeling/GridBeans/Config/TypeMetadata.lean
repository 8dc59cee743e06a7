import GridBeans.Document.Reader

/-!
# Type metadata

How a type is mapped to database columns and which of its fields can be queried.
-/
namespace GridBeans.Config

open GridBeans.Document

/-- Which side of a type is described. -/
inductive MetadataKind where
  | query | store | both
  deriving DecidableEq, Repr

def MetadataKind.named : List (String × MetadataKind) :=
  [("query", .query), ("store", .store), ("both", .both)]

def MetadataKind.codec {ν : Type} [Source ν] : Codec ν MetadataKind :=
  choice "MetadataKind" MetadataKind.named

/-- A column and the field it is mapped to. -/
structure DatabaseField where
  databaseName : Option String
  databaseType : String
  javaName : Option String
  javaType : Option String
  deriving DecidableEq, Repr

def DatabaseField.schema {ν : Type} [Source ν] : Fields ν DatabaseField :=
  DatabaseField.mk
    <$> optional "databaseName" text
    <*> (required "databaseType" text).noted "`java.sql.Types` constant name, e.g. `VARCHAR`."
    <*> optional "javaName" text
    <*> optional "javaType" text

def DatabaseField.codec {ν : Type} [Source ν] : Codec ν DatabaseField :=
  record "DatabaseField" DatabaseField.schema

structure QueryField where
  name : String
  className : String
  deriving DecidableEq, Repr

def QueryField.schema {ν : Type} [Source ν] : Fields ν QueryField :=
  QueryField.mk
    <$> required "name" text
    <*> required "className" text

def QueryField.codec {ν : Type} [Source ν] : Codec ν QueryField :=
  record "QueryField" QueryField.schema

structure GroupField where
  name : String
  className : String
  direction : Bool
  deriving DecidableEq, Repr

def GroupField.schema {ν : Type} [Source ν] : Fields ν GroupField :=
  GroupField.mk
    <$> required "name" text
    <*> required "className" text
    <*> (switch "direction").noted "`true` for descending order."

def GroupField.codec {ν : Type} [Source ν] : Codec ν GroupField :=
  record "GroupField" GroupField.schema

structure FieldGroup where
  name : String
  fields : List GroupField
  deriving DecidableEq, Repr

def FieldGroup.schema {ν : Type} [Source ν] : Fields ν FieldGroup :=
  FieldGroup.mk
    <$> required "name" text
    <*> listed "fields" GroupField.codec

def FieldGroup.codec {ν : Type} [Source ν] : Codec ν FieldGroup :=
  record "FieldGroup" FieldGroup.schema

/-- The description of one type. -/
structure TypeMetadata where
  name : String
  kind : Option MetadataKind
  keyType : Option String
  valueType : Option String
  databaseSchema : Option String
  databaseTable : Option String
  keyFields : List DatabaseField
  valueFields : List DatabaseField
  queryFields : List QueryField
  ascendingFields : List QueryField
  descendingFields : List QueryField
  textFields : List String
  groups : List FieldGroup
  deriving DecidableEq, Repr

def TypeMetadata.schema {ν : Type} [Source ν] : Fields ν TypeMetadata :=
  TypeMetadata.mk
    <$> required "name" text
    <*> optional "kind" MetadataKind.codec
    <*> optional "keyType" text
    <*> optional "valueType" text
    <*> optional "databaseSchema" text
    <*> optional "databaseTable" text
    <*> listed "keyFields" DatabaseField.codec
    <*> listed "valueFields" DatabaseField.codec
    <*> listed "queryFields" QueryField.codec
    <*> listed "ascendingFields" QueryField.codec
    <*> listed "descendingFields" QueryField.codec
    <*> listed "textFields" text
    <*> listed "groups" FieldGroup.codec

def TypeMetadata.codec {ν : Type} [Source ν] : Codec ν TypeMetadata :=
  record "TypeMetadata" TypeMetadata.schema

end GridBeans.Config
