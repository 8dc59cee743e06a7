import GridBeans.Catalogue.Classes
import GridBeans.Catalogue.Events
import GridBeans.Generation.NodeParts
import GridBeans.Generation.StoreFactory

/-!
# Listings

What a description may refer to by name, as JSON texts: the event groups, and the known classes
with those behind every kind that can be chosen. Members are sorted by name.
-/
namespace GridBeans.Reference

open GridBeans.Json GridBeans.Catalogue GridBeans.Generation

/-- An object with its members sorted by name. -/
def sortedObject (members : List (String × Value)) : Value :=
  .object (sortMembers members)

def eventGroupListing : Value :=
  sortedObject (eventGroups.map fun g => (g.name, .array (g.events.map .string)))

/-- The kinds that can be chosen in a slot, each with its class. -/
structure SlotKinds where
  slot : String
  kinds : List (String × String)
  deriving DecidableEq, Repr

def slotKinds : List SlotKinds :=
  [⟨"discovery", FinderKind.all.map fun k => (k.name, k.className)⟩,
    ⟨"evictionPolicy", EvictionKind.all.map fun k => (k.name, k.shape.className)⟩,
    ⟨"cacheStoreFactory", StoreKind.all.map fun k => (k.name, k.shape.className)⟩,
    ⟨"marshaller", MarshallerKind.all.map fun k => (k.name, k.shape.className)⟩,
    ⟨"swapSpaceSpi", [(fileSwapSpaceKind, BeanShape.fileSwapSpaceSpi.className)]⟩]

/-- The kinds of a slot as an object. -/
def SlotKinds.listing (s : SlotKinds) : Value :=
  sortedObject (s.kinds.map fun (kind, className) => (kind, .string className))

def classListing : Value :=
  sortedObject [
    ("javaBuildInClasses",
      sortedObject (javaClasses.map fun c => (c.short, .string c.qualified))),
    ("jdbcDialects",
      sortedObject (dialects.map fun d =>
        (d.short,
          sortedObject [("dialect", .string d.qualified), ("dataSource", .string d.dataSource)]))),
    ("variants", sortedObject (slotKinds.map fun s => (s.slot, s.listing)))]

end GridBeans.Reference
