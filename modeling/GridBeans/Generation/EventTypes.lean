import GridBeans.Catalogue.Events
import GridBeans.Generation.TypeEntry

/-!
# Event types

The events a cluster records. One group is referred to by its own constant; several groups are
written out, each with a comment and the constants of its events.
-/
namespace GridBeans.Generation

open GridBeans.Markup GridBeans.Catalogue

def eventTypeClass : String := "org.apache.ignite.events.EventType"

def eventConstant (name : String) : Piece :=
  constantTag eventTypeClass name

def groupNamed (name : String) : Except Failure EventGroup :=
  match eventsOf? name with
  | some events => .ok ⟨name, events⟩
  | none => .error (.unknownEventGroup name)

/-- A comment and the constants of the events of a group. -/
def groupEvents (g : EventGroup) : Script Unit := do
  Script.line (.comment ("EventType." ++ g.name))
  Script.forEach g.events fun event => Script.line (eventConstant event)

/-- The event types. All groups are looked up before anything is written. -/
def eventTypes (names : List String) : Script Unit :=
  if names.isEmpty then pure ()
  else do
    let groups ← Script.ofExcept (names.mapM groupNamed)
    Script.sectionStart
    propertyBlock "includeEventTypes"
      (match groups with
      | [g] => .line (eventConstant g.name)
      | groups => .block "array" [] (.forEachSpaced groups groupEvents))
    Script.requestBlank

end GridBeans.Generation
