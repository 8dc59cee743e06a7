import GridBeans.Catalogue.Classes
import GridBeans.Config.Cache
import GridBeans.Generation.Script

/-!
# Properties

The property elements that everything else is made of: a single value, a class known by a short
name, or a list of values.
-/
namespace GridBeans.Generation

open GridBeans.Markup GridBeans.Catalogue GridBeans.Config

/-- A type whose values can be the value of a property. -/
class PropertyValue (α : Type) where
  attributeValue : α → AttributeValue

instance : PropertyValue String := ⟨.plain⟩

instance : PropertyValue Int := ⟨fun i => .written (toString i)⟩

instance : PropertyValue Bool := ⟨fun b => .written (if b then "true" else "false")⟩

instance : PropertyValue Decimal.Double := ⟨fun d => .written (Decimal.plainLayout.write d)⟩

instance : PropertyValue CacheMode := ⟨fun mode => .written mode.name⟩

/-- A JSON value other than a string is written as JSON. -/
instance : PropertyValue Json.Value where
  attributeValue
    | .string text => .plain text
    | v => .written v.compact

def attr (name value : String) : Attribute := ⟨name, .plain value⟩

/-- An attribute whose value is written as it is. -/
def writtenAttr (name value : String) : Attribute := ⟨name, .written value⟩

def propertyTag (name : String) (value : AttributeValue) : Piece :=
  .emptyTag "property" [writtenAttr "name" name, ⟨"value", value⟩]

def propertyBlock (name : String) (body : Script Unit) : Script Unit :=
  .block "property" [writtenAttr "name" name] body

def beanBlock (className : String) (body : Script Unit) : Script Unit :=
  .block "bean" [writtenAttr "class" className] body

def beanTag (className : AttributeValue) : Piece :=
  .emptyTag "bean" [⟨"class", className⟩]

/-- A property, if it has a value. -/
def property {α : Type} [PropertyValue α] (name : String) : Option α → Script Unit
  | none => pure ()
  | some a => do
    Script.sectionStart
    Script.line (propertyTag name (PropertyValue.attributeValue a))

/-- A property whose value is a class, by its full name. -/
def classProperty (name : String) (className : Option String) : Script Unit :=
  property name (className.map resolveClassName)

/-- A property whose value is a container with a line for each item, if there is any item. -/
def rowsProperty {α : Type} (name container : String) (items : List α) (row : α → Piece) :
    Script Unit :=
  if items.isEmpty then pure ()
  else do
    Script.sectionStart
    propertyBlock name
      (.block container [] (.forEach items fun a => .line (row a)))

def valueLeaf (text : String) : Piece :=
  .leaf "value" [] text

def listProperty (name container : String) (items : List String) : Script Unit :=
  rowsProperty name container items valueLeaf

end GridBeans.Generation
