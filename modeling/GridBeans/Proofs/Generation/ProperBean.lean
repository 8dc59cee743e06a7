import GridBeans.Generation.ShapedBean
import GridBeans.Proofs.Generation.Proper

/-!
# Proper beans

Properties, lists and beans are proper scripts if the values put into them are spelled over the
class: every name that stands in a tag is plain, and every value is either escaped or plain.
-/
namespace GridBeans.Generation

open GridBeans.Xml GridBeans.Markup GridBeans.Config GridBeans.Json

variable {P : Char → Prop}

/-! ## Elements -/

theorem structural_property : Structural "property" := structural_literal (by decide) (by decide)

theorem structural_bean : Structural "bean" := structural_literal (by decide) (by decide)

theorem propertyTag_proper {name : String} {value : AttributeValue} (plain : Plain name)
    (proper : value.Proper P) : (propertyTag name value).Proper P := by
  have attributes : ProperAttributes P [writtenAttr "name" name, ⟨"value", value⟩] :=
    .cons (by decide) plain (by simp) (.one (by decide) proper)
  exact ⟨structural_property.named, structural_property.other, attributes⟩

theorem beanTag_proper {className : AttributeValue} (proper : className.Proper P) :
    (beanTag className).Proper P :=
  ⟨structural_bean.named, structural_bean.other, .one (by decide) proper⟩

theorem propertyBlock_proper {name : String} {body : Script Unit} (plain : Plain name)
    (proper : body.Proper P) : (propertyBlock name body).Proper P := by
  have attributes : ProperAttributes P [writtenAttr "name" name] := .one (by decide) plain
  exact .block ⟨structural_property.named, structural_property.other, attributes⟩ proper

theorem beanBlock_proper {className : String} {body : Script Unit} (plain : Plain className)
    (proper : body.Proper P) : (beanBlock className body).Proper P := by
  have attributes : ProperAttributes P [writtenAttr "class" className] := .one (by decide) plain
  exact .block ⟨structural_bean.named, structural_bean.other, attributes⟩ proper

theorem containerBlock_proper {container : String} {body : Script Unit}
    (structural : Structural container) (proper : body.Proper P) :
    (Script.block container [] body).Proper P :=
  .block ⟨structural.named, structural.other, .nil⟩ proper

/-! ## Properties -/

/-- A property with a plain name is proper, if the value that is written is. -/
theorem property_proper {α : Type} [PropertyValue α] {name : String} {value : Option α}
    (plain : Plain name)
    (proper : ∀ a, value = some a → (PropertyValue.attributeValue a).Proper P) :
    (property name value).Proper P := by
  cases value with
  | none => exact .pure ()
  | some a =>
    have tag := propertyTag_proper plain (proper a rfl)
    exact .next .sectionStart (.line tag (.emptyTag _ _))

/-- A property of a spelled value. -/
theorem spelledProperty_proper {α : Type} [PropertyValue α] [HasTexts α] [WritesTexts α]
    {name : String} {value : Option α} (plain : Plain name) (spelled : Spelled P value) :
    (property name value).Proper P :=
  property_proper plain fun a same => WritesTexts.proper a (spelled_option.mp spelled a same)

theorem integerProperty_proper {name : String} (value : Option Int) (plain : Plain name) :
    (property name value).Proper P :=
  property_proper plain fun i _ => plain_integer i

theorem switchProperty_proper {name : String} (value : Option Bool) (plain : Plain name) :
    (property name value).Proper P :=
  property_proper plain fun b _ => WritesTexts.proper b (spelled_bool b)

/-- Resolving a class keeps it over its class of characters, since the known classes are plain. -/
theorem classProperty_proper [AdmitsPlain P] {name : String} {className : Option String}
    (plain : Plain name) (spelled : Spelled P className) :
    (classProperty name className).Proper P := by
  refine property_proper plain fun resolved same => ?_
  obtain ⟨written, rfl, rfl⟩ := Option.map_eq_some_iff.mp same
  have admitted : Over P written := by simpa using spelled
  exact over_resolveClassName admitted

theorem rowsProperty_proper {α : Type} {name container : String} {items : List α} {row : α → Piece}
    (plain : Plain name) (structural : Structural container)
    (proper : ∀ a ∈ items, (row a).Proper P ∧ Whole [row a]) :
    (rowsProperty name container items row).Proper P := by
  rw [rowsProperty]
  split
  · exact .pure ()
  · refine .next .sectionStart (propertyBlock_proper plain (containerBlock_proper structural ?_))
    exact .forEach fun a mem => .line (proper a mem).1 (proper a mem).2

theorem valueLeaf_proper {text : String} (admitted : Over P text) : (valueLeaf text).Proper P := by
  have named : isName "value".toList = true := by decide
  have textual : isTextElement "value".toList = true := by decide
  exact ⟨named, textual, .nil, admitted⟩

theorem listProperty_proper {name container : String} {items : List String} (plain : Plain name)
    (structural : Structural container) (admitted : ∀ text ∈ items, Over P text) :
    (listProperty name container items).Proper P :=
  rowsProperty_proper plain structural fun text mem =>
    ⟨valueLeaf_proper (admitted text mem), .leaf _ _ _⟩

/-! ## Beans of a shape -/

/-- A value other than a list or an object, its text being over the class. -/
def Scalar (P : Char → Prop) : Value → Prop
  | .null | .bool _ | .number _ => True
  | .string text => Over P text
  | .array _ | .object _ => False

/-- The value can be written the way of a kind. -/
def FieldKind.Accepts (P : Char → Prop) (kind : FieldKind) (v : Value) : Prop :=
  match kind with
  | .scalar | .classNameRef => Scalar P v
  | .list | .propertyBag => ∀ text ∈ itemTexts v, Over P text

/-- A shape whose names need no escapes. -/
structure BeanShape.Plain (shape : BeanShape) : Prop where
  className : Markup.Plain shape.className
  properties : ∀ f ∈ shape.fields, Markup.Plain f.propertyName

/-- Every member can be written the way of every field. -/
def BeanShape.Accepts (P : Char → Prop) (shape : BeanShape) (members : List (String × Value)) :
    Prop :=
  ∀ f ∈ shape.fields, ∀ m ∈ members, f.kind.Accepts P m.2

theorem scalar_proper {v : Value} (scalar : Scalar P v) :
    (PropertyValue.attributeValue v).Proper P := by
  cases v with
  | null => exact plain_literal rfl
  | bool b => cases b <;> exact plain_literal rfl
  | number n => exact plain_number n
  | string text => exact scalar
  | array items => exact scalar.elim
  | object members => exact scalar.elim

/-- Both parts of an entry are parts of its text. -/
theorem over_splitEntry {entry : String} {key value : String} (admitted : Over P entry)
    (split : splitEntry? entry = some (key, value)) : Over P key ∧ Over P value := by
  unfold splitEntry? at split
  cases behind : entry.toList.dropWhile (· != '=') with
  | nil => simp [behind] at split
  | cons c rest =>
    have same : (String.ofList (entry.toList.takeWhile (· != '=')), String.ofList rest) =
        (key, value) := by
      simpa [behind] using split
    obtain ⟨rfl, rfl⟩ := Prod.mk.inj same
    have front : ∀ c ∈ entry.toList.takeWhile (· != '='), P c := fun c mem =>
      admitted c ((List.takeWhile_prefix _).subset mem)
    have back : ∀ c ∈ rest, P c := fun c mem =>
      admitted c ((List.dropWhile_suffix _).subset (behind ▸ List.mem_cons_of_mem _ mem))
    exact ⟨over_ofList.mpr front, over_ofList.mpr back⟩

/-- The key and the value of an entry have no characters but those of the entry. -/
theorem bagEntries_over {v : Value} (admitted : ∀ text ∈ itemTexts v, Over P text) :
    ∀ entry ∈ bagEntries v, Over P entry.1 ∧ Over P entry.2 := by
  intro entry mem
  obtain ⟨text, inside, split⟩ := List.mem_filterMap.mp mem
  exact over_splitEntry (admitted text inside) split

theorem bagLeaf_proper {entry : String × String} (key : Over P entry.1) (value : Over P entry.2) :
    (bagLeaf entry).Proper P := by
  have named : isName "prop".toList = true := by decide
  have textual : isTextElement "prop".toList = true := by decide
  have attributes : ProperAttributes P [attr "key" entry.1] := .one (by decide) key
  exact ⟨named, textual, attributes, value⟩

/-- The value of a field is proper, if it is one that the kind of the field accepts. -/
theorem writeValue_proper [AdmitsPlain P] {f : FieldShape} {v : Value}
    (plain : Plain f.propertyName) (accepted : f.kind.Accepts P v) : (f.writeValue v).Proper P := by
  have structuralList : Structural "list" := structural_literal (by decide) (by decide)
  have structuralProps : Structural "props" := structural_literal (by decide) (by decide)
  unfold FieldShape.writeValue
  cases kind : f.kind with
  | scalar =>
    rw [kind] at accepted
    exact property_proper plain fun a same => Option.some.inj same ▸ scalar_proper accepted
  | list =>
    rw [kind] at accepted
    exact listProperty_proper plain structuralList accepted
  | classNameRef =>
    rw [kind] at accepted
    cases v with
    | string name =>
      simp only
      split
      · exact .pure ()
      · have resolved : (AttributeValue.plain (Catalogue.resolveClassName name)).Proper P :=
          over_resolveClassName accepted
        exact propertyBlock_proper plain (.line (beanTag_proper resolved) (.emptyTag _ _))
    | null | bool | number | array | object => exact .pure ()
  | propertyBag =>
    rw [kind] at accepted
    refine rowsProperty_proper plain structuralProps fun entry mem => ?_
    obtain ⟨key, value⟩ := bagEntries_over accepted entry mem
    exact ⟨bagLeaf_proper key value, .leaf _ _ _⟩

theorem mem_of_member? {name : String} {members : List (String × Value)} {v : Value}
    (found : member? name members = some v) : ∃ m ∈ members, m.2 = v := by
  obtain ⟨m, hit, same⟩ := Option.map_eq_some_iff.mp found
  exact ⟨m, List.mem_of_find?_eq_some hit, same⟩

/-- A bean is proper if its shape is plain and its members can be written by it. -/
theorem shapedBean_proper [AdmitsPlain P] {name : String} {shape : BeanShape}
    {members : List (String × Value)} (force : Bool) (plain : Plain name) (named : shape.Plain)
    (accepted : shape.Accepts P members) : (shapedBean name shape members force).Proper P := by
  have fields : ∀ f ∈ shape.fields, (f.write members).Proper P := by
    intro f mem
    unfold FieldShape.write
    split
    · cases found : member? f.name members with
      | none => exact .pure ()
      | some v =>
        obtain ⟨m, inside, rfl⟩ := mem_of_member? found
        exact writeValue_proper (named.properties f mem) (accepted f mem m inside)
    · exact .pure ()
  unfold shapedBean
  split
  · exact .next .sectionStart
      (propertyBlock_proper plain (beanBlock_proper named.className (.forEach fields)))
  · split
    · have empty : (beanTag (.written shape.className)).Proper P := beanTag_proper named.className
      exact .next .sectionStart (propertyBlock_proper plain (.line empty (.emptyTag _ _)))
    · exact .pure ()

end GridBeans.Generation
