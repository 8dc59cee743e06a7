import GridBeans.Catalogue.Classes
import GridBeans.Config.Cluster

/-!
# Classes by their full names

A description in which every class that may go by a short name is given by its full name: the key
of a type, the fields of its columns, of its queries and of its groups, and indexed types. Two
descriptions that are the same in this form differ only in how they name classes.
-/
namespace GridBeans.Config

open GridBeans.Catalogue

def DatabaseField.qualified (f : DatabaseField) : DatabaseField :=
  { f with javaType := f.javaType.map resolveClassName }

def QueryField.qualified (f : QueryField) : QueryField :=
  { f with className := resolveClassName f.className }

def GroupField.qualified (f : GroupField) : GroupField :=
  { f with className := resolveClassName f.className }

def FieldGroup.qualified (g : FieldGroup) : FieldGroup :=
  { g with fields := g.fields.map GroupField.qualified }

/-- The class of the values is written as it is given, so it has one form only. -/
def TypeMetadata.qualified (t : TypeMetadata) : TypeMetadata :=
  { t with
    keyType := t.keyType.map resolveClassName
    keyFields := t.keyFields.map DatabaseField.qualified
    valueFields := t.valueFields.map DatabaseField.qualified
    queryFields := t.queryFields.map QueryField.qualified
    ascendingFields := t.ascendingFields.map QueryField.qualified
    descendingFields := t.descendingFields.map QueryField.qualified
    groups := t.groups.map FieldGroup.qualified }

def IndexedType.qualified (t : IndexedType) : IndexedType :=
  ⟨resolveClassName t.keyClass, resolveClassName t.valueClass⟩

def CacheConfig.qualified (c : CacheConfig) : CacheConfig :=
  { c with
    indexedTypes := c.indexedTypes.map IndexedType.qualified
    queryMetadata := c.queryMetadata.map TypeMetadata.qualified
    storeMetadata := c.storeMetadata.map TypeMetadata.qualified }

def ClusterConfig.qualified (c : ClusterConfig) : ClusterConfig :=
  { c with caches := c.caches.map CacheConfig.qualified }

end GridBeans.Config
