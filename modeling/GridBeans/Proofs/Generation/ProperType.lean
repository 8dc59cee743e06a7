import GridBeans.Generation.TypeEntry
import GridBeans.Proofs.Generation.ProperBean

/-!
# Proper type entries

The beans that describe types. Names of fields, columns and classes are written as attributes of
entries, so they may be any texts.
-/
namespace GridBeans.Generation

open GridBeans.Xml GridBeans.Markup GridBeans.Config GridBeans.Catalogue

variable {P : Char → Prop}

theorem structural_list : Structural "list" := structural_literal (by decide) (by decide)

theorem structural_array : Structural "array" := structural_literal (by decide) (by decide)

theorem structural_map : Structural "map" := structural_literal (by decide) (by decide)

theorem structural_entry : Structural "entry" := structural_literal (by decide) (by decide)

theorem structural_argument : Structural "constructor-arg" :=
  structural_literal (by decide) (by decide)

theorem constantTag_proper {className name : String} (plain : Over P (className ++ "." ++ name)) :
    (constantTag className name).Proper P := by
  have structural : Structural "util:constant" := structural_literal (by decide) (by decide)
  exact ⟨structural.named, structural.other, .one (by decide) plain⟩

theorem argument_proper {value : AttributeValue} (proper : value.Proper P) :
    (Piece.emptyTag "constructor-arg" [⟨"value", value⟩]).Proper P :=
  ⟨structural_argument.named, structural_argument.other, .one (by decide) proper⟩

theorem entryBlock_proper {key : String} {body : Script Unit} (admitted : Over P key)
    (proper : body.Proper P) : (Script.block "entry" [attr "key" key] body).Proper P := by
  have attributes : ProperAttributes P [attr "key" key] := .one (by decide) admitted
  exact .block ⟨structural_entry.named, structural_entry.other, attributes⟩ proper

theorem containerProperty_proper {α : Type} {name container : String} {items : List α}
    {each : α → Script Unit} (plain : Plain name) (structural : Structural container)
    (proper : ∀ a ∈ items, (each a).Proper P) :
    (containerProperty name container items each).Proper P := by
  rw [containerProperty]
  split
  · exact .pure ()
  · exact propertyBlock_proper plain (containerBlock_proper structural (.forEach proper))

section

variable [AdmitsPlain P]

theorem databaseField_proper {f : DatabaseField} (spelled : Spelled P f) :
    (databaseField f).Proper P := by
  obtain ⟨databaseName, databaseType, javaName, javaType⟩ := (spelled_databaseField f).mp spelled
  have sqlType : Over P ("java.sql.Types" ++ "." ++ f.databaseType) := by
    have package : Plain ("java.sql.Types" ++ ".") :=
      plain_append.mpr ⟨plain_literal rfl, plain_literal rfl⟩
    exact over_append.mpr ⟨package.over, (spelled_text f.databaseType).mp databaseType⟩
  exact beanBlock_proper (plain_literal rfl) <|
    .next (spelledProperty_proper (plain_literal rfl) databaseName) <|
    .next (propertyBlock_proper (plain_literal rfl)
      (.line (constantTag_proper sqlType) (.emptyTag _ _))) <|
    .next (spelledProperty_proper (plain_literal rfl) javaName) <|
    classProperty_proper (plain_literal rfl) javaType

theorem databaseFields_proper {name : String} {fields : List DatabaseField} (plain : Plain name)
    (spelled : Spelled P fields) : (databaseFields name fields).Proper P :=
  containerProperty_proper plain structural_list fun f mem =>
    databaseField_proper ((spelled_list fields).mp spelled f mem)

theorem queryFields_proper {name : String} {fields : List QueryField} (plain : Plain name)
    (spelled : Spelled P fields) : (queryFields name fields).Proper P := by
  refine containerProperty_proper plain structural_map fun f mem => .line ?_ (.emptyTag _ _)
  obtain ⟨field, className⟩ := (spelled_queryField f).mp ((spelled_list fields).mp spelled f mem)
  have key : Over P f.name := (spelled_text f.name).mp field
  have value : Over P (resolveClassName f.className) :=
    over_resolveClassName ((spelled_text f.className).mp className)
  have attributes : ProperAttributes P
      [attr "key" f.name, attr "value" (resolveClassName f.className)] :=
    .cons (by decide) key (by simp [attr]) (.one (by decide) value)
  exact ⟨structural_entry.named, structural_entry.other, attributes⟩

theorem groupField_proper {f : GroupField} (spelled : Spelled P f) : (groupField f).Proper P := by
  obtain ⟨field, className⟩ := (spelled_groupField f).mp spelled
  have classArgument : (AttributeValue.plain (resolveClassName f.className)).Proper P :=
    over_resolveClassName ((spelled_text f.className).mp className)
  have directionArgument : (PropertyValue.attributeValue f.direction).Proper P :=
    WritesTexts.proper f.direction (spelled_bool f.direction)
  exact entryBlock_proper ((spelled_text f.name).mp field) <|
    beanBlock_proper (plain_literal rfl) <|
    .next (.line (argument_proper classArgument) (.emptyTag _ _)) <|
    .line (argument_proper directionArgument) (.emptyTag _ _)

theorem fieldGroup_proper {g : FieldGroup} (spelled : Spelled P g) : (fieldGroup g).Proper P := by
  obtain ⟨name, fields⟩ := (spelled_fieldGroup g).mp spelled
  exact entryBlock_proper ((spelled_text g.name).mp name) <|
    containerBlock_proper structural_map <|
    .forEach fun f mem => groupField_proper ((spelled_list g.fields).mp fields f mem)

theorem fieldGroups_proper {groups : List FieldGroup} (spelled : Spelled P groups) :
    (fieldGroups groups).Proper P :=
  containerProperty_proper (plain_literal rfl) structural_map fun g mem =>
    fieldGroup_proper ((spelled_list groups).mp spelled g (List.mem_filter.mp mem).1)

theorem typeEntry_proper {t : TypeMetadata} (spelled : Spelled P t) : (typeEntry t).Proper P := by
  obtain ⟨-, keyType, valueType, databaseSchema, databaseTable, keyFields, valueFields, query,
    ascending, descending, textFields, groups⟩ := (spelled_typeMetadata t).mp spelled
  have database : (databaseSide t).Proper P :=
    .next (spelledProperty_proper (plain_literal rfl) databaseSchema) <|
    .next (spelledProperty_proper (plain_literal rfl) databaseTable) <|
    .next (.onlyIf fun _ => databaseFields_proper (plain_literal rfl) keyFields) <|
    databaseFields_proper (plain_literal rfl) valueFields
  have queries : (querySide t).Proper P :=
    .next (queryFields_proper (plain_literal rfl) query) <|
    .next (queryFields_proper (plain_literal rfl) ascending) <|
    .next (queryFields_proper (plain_literal rfl) descending) <|
    .next (listProperty_proper (plain_literal rfl) structural_list
      ((spelled_texts t.textFields).mp textFields)) <|
    fieldGroups_proper groups
  exact beanBlock_proper (plain_literal rfl) <|
    .next (classProperty_proper (plain_literal rfl) keyType) <|
    .next (spelledProperty_proper (plain_literal rfl) valueType) <|
    .next (.onlyIf fun _ => database) <|
    .onlyIf fun _ => queries

end

theorem mem_of_mem_firstByName {t : TypeMetadata} {seen : List String} {types : List TypeMetadata}
    (mem : t ∈ firstByName seen types) : t ∈ types := by
  induction types generalizing seen with
  | nil => exact mem
  | cons first rest ih =>
    rw [firstByName] at mem
    split at mem
    · exact List.mem_cons_of_mem first (ih mem)
    · rcases List.mem_cons.mp mem with rfl | later
      · exact List.mem_cons_self
      · exact List.mem_cons_of_mem first (ih later)

theorem typeEntries_proper [AdmitsPlain P] {query store : List TypeMetadata}
    (querySpelled : Spelled P query) (storeSpelled : Spelled P store) :
    (typeEntries query store).Proper P := by
  have each : ∀ t ∈ query ++ store, Spelled P t :=
    List.forall_mem_append.mpr
      ⟨(spelled_list query).mp querySpelled, (spelled_list store).mp storeSpelled⟩
  rw [typeEntries]
  split
  · exact .pure ()
  · exact .next .sectionStart <|
      propertyBlock_proper (plain_literal rfl) <|
      containerBlock_proper structural_list <|
      .forEach fun t mem => typeEntry_proper (each t (mem_of_mem_firstByName mem))

end GridBeans.Generation
