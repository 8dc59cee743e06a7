import GridBeans.Generation.BeanShape
import GridBeans.Generation.Property

/-!
# Beans written from a shape

A bean is written from the JSON members of its settings by the table of its shape. The bean has a
block only if one of the described fields has a value; otherwise nothing is written, or a bean
without content where one is called for.
-/
namespace GridBeans.Generation

open GridBeans.Markup GridBeans.Json

/-- The key before the first equals sign and the value behind it. -/
def splitEntry? (entry : String) : Option (String × String) :=
  let cs := entry.toList
  match cs.dropWhile (· != '=') with
  | [] => none
  | _ :: value => some (String.ofList (cs.takeWhile (· != '=')), String.ofList value)

/-- The items of a list as texts; other values have none. -/
def itemTexts : Value → List String
  | .array items => items.map fun
    | .string text => text
    | v => v.compact
  | _ => []

/-- The entries of a property bag; items without an equals sign are left out. -/
def bagEntries (v : Value) : List (String × String) :=
  (itemTexts v).filterMap splitEntry?

/-- There is something to write for a field. -/
def FieldShape.hasValue (f : FieldShape) (members : List (String × Value)) : Bool :=
  match member? f.name members with
  | none | some .null => false
  | some v =>
    if f.kind = .propertyBag then !(bagEntries v).isEmpty
    else
      match v with
      | .array items => !items.isEmpty
      | _ => true

def bagLeaf (entry : String × String) : Piece :=
  .leaf "prop" [attr "key" entry.1] entry.2

def FieldShape.writeValue (f : FieldShape) (v : Value) : Script Unit :=
  match f.kind with
  | .scalar => property f.propertyName (some v)
  | .list => listProperty f.propertyName "list" (itemTexts v)
  | .classNameRef =>
    match v with
    | .string name =>
      if name.isEmpty then pure ()
      else
        propertyBlock f.propertyName
          (.line (beanTag (.plain (Catalogue.resolveClassName name))))
    | _ => pure ()
  | .propertyBag => rowsProperty f.propertyName "props" (bagEntries v) bagLeaf

/-- Writes a field, if there is something to write. -/
def FieldShape.write (f : FieldShape) (members : List (String × Value)) : Script Unit :=
  if f.hasValue members then
    match member? f.name members with
    | some v => f.writeValue v
    | none => pure ()
  else pure ()

/-- A property whose value is a bean of a shape. With `force`, a bean for which there is nothing to
write is written without content. -/
def shapedBean (name : String) (shape : BeanShape) (members : List (String × Value))
    (force : Bool) : Script Unit :=
  if shape.fields.any (·.hasValue members) then do
    Script.sectionStart
    propertyBlock name
      (beanBlock shape.className (.forEach shape.fields (·.write members)))
  else if force then do
    Script.sectionStart
    propertyBlock name (.line (beanTag (.written shape.className)))
  else pure ()

end GridBeans.Generation
