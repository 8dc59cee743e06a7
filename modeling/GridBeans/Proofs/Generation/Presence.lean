import GridBeans.Proofs.Generation.Conformed
import GridBeans.Proofs.Generation.Outlined

/-!
# Presence of fields

Whether the bean of a shape has a block is decided by the values of its fields alone, and what
stands in the block by the way each field is written. The two agree but for silent fields: those
with a value that counts and is none that can be written, such as a class name without any
character.
-/
namespace GridBeans.Generation

open GridBeans.Xml GridBeans.Markup GridBeans.Config GridBeans.Json

/-! ## Silent fields -/

/-- A value that counts as given and leaves nothing to write: no list where one is written, and no
text or an empty one for the name of a class. -/
def FieldKind.isSilent : FieldKind → Value → Bool
  | .list, .null | .list, .array _ | .classNameRef, .null => false
  | .classNameRef, .array items => !items.isEmpty
  | .classNameRef, .string name => name.isEmpty
  | .list, _ | .classNameRef, _ => true
  | .scalar, _ | .propertyBag, _ => false

/-- The field has a value that leaves nothing to write. -/
def FieldShape.isSilent (f : FieldShape) (members : List (String × Value)) : Bool :=
  (member? f.name members).any f.kind.isSilent

/-- The field has a value that is written. -/
def FieldShape.isWritten (f : FieldShape) (members : List (String × Value)) : Bool :=
  f.hasValue members && !f.isSilent members

/-! ## Lines of a field -/

theorem nodesOf_containerLines_ne_nil (name container : String) {rows : List Piece}
    (filled : rows ≠ []) : nodesOf (containerLines name container (pieceLines rows)) ≠ [] := by
  have linesFilled : pieceLines rows ≠ [] := by simpa [pieceLines] using filled
  rw [containerLines, if_neg linesFilled]
  exact nodesOf_elementLines_ne_nil _ _ _

/-- A value that counts is written unless it is silent: no list where one is written, or no text for
a class. -/
theorem valueLines_written (f : FieldShape) {members : List (String × Value)} {v : Value}
    (given : member? f.name members = some v) (counts : f.hasValue members = true) :
    if f.kind.isSilent v then f.valueLines v = [] else nodesOf (f.valueLines v) ≠ [] := by
  rw [FieldShape.hasValue, given] at counts
  unfold FieldShape.valueLines
  cases kind : f.kind with
  | scalar =>
    show nodesOf (propertyLines f.propertyName (some v)) ≠ []
    exact List.cons_ne_nil _ _
  | propertyBag =>
    have entries : bagEntries v ≠ [] := by
      cases v with
      | null => cases counts
      | bool | number | string | array | object => simpa [kind] using counts
    exact nodesOf_containerLines_ne_nil _ _ (by simpa using entries)
  | list =>
    cases v with
    | null => cases counts
    | array items =>
      have filled : items ≠ [] := by simpa [kind] using counts
      exact nodesOf_containerLines_ne_nil _ _ (by simpa [itemTexts] using filled)
    | bool | number | string | object => rfl
  | classNameRef =>
    cases v with
    | null => cases counts
    | array items =>
      have filled : items.isEmpty = false := by simpa [kind] using counts
      rw [FieldKind.isSilent, filled]
      rfl
    | string name =>
      simp only [FieldKind.isSilent]
      split
      · rfl
      · exact nodesOf_elementLines_ne_nil _ _ _
    | bool | number | object => rfl

/-- A field is written as one property if it has a value that is not silent, and else not at all. -/
theorem fieldLines_written (f : FieldShape) (members : List (String × Value)) :
    if f.isWritten members then
      ∃ node, nodesOf (f.lines members) = [node] ∧ node.tag? = some "property" ∧
        attribute? "name" node = some f.propertyName
    else f.lines members = [] := by
  rw [FieldShape.isWritten, FieldShape.isSilent]
  by_cases counts : f.hasValue members = true
  · cases given : member? f.name members with
    | none =>
      rw [FieldShape.hasValue, given] at counts
      cases counts
    | some v =>
      have lines : f.lines members = f.valueLines v := by simp [FieldShape.lines, counts, given]
      have written := valueLines_written f given counts
      rw [lines, counts, Option.any_some]
      cases silent : f.kind.isSilent v with
      | true => simpa [silent] using written
      | false =>
        have filled : nodesOf (f.valueLines v) ≠ [] := by simpa [silent] using written
        exact (valueLines_lists f v).only filled
  · simp [FieldShape.lines, counts]

/-- The properties of fields are those of the fields that are written, in the same order. -/
theorem fieldsLines_written (fields : List FieldShape) (members : List (String × Value)) :
    Tagged ["property"] (nodesOf (fields.flatMap (·.lines members))) ∧
      (nodesOf (fields.flatMap (·.lines members))).map (attribute? "name") =
        (fields.filter (·.isWritten members)).map fun f => some f.propertyName := by
  refine ⟨(fieldsLines_lists fields members).tagged, ?_⟩
  induction fields with
  | nil => rfl
  | cons f rest ih =>
    have field := fieldLines_written f members
    rw [List.flatMap_cons, nodesOf_append (fieldLines_lists f members).whole, List.map_append, ih]
    cases written : f.isWritten members with
    | true =>
      rw [written, if_pos rfl] at field
      obtain ⟨node, nodes, -, named⟩ := field
      rw [nodes, List.map_singleton, named, List.filter_cons_of_pos (by simpa using written)]
      rfl
    | false =>
      rw [written, if_neg Bool.false_ne_true] at field
      rw [field, List.filter_cons_of_neg (by simpa using written)]
      rfl

/-! ## What is written on a sheet -/

theorem runOn_pure (sheet : Sheet) : (pure () : Script Unit).runOn sheet = sheet :=
  Script.runOn_ofExcept (.ok ()) sheet

/-- What is not written makes no mark, not even one that could bring about a blank line. -/
theorem write_of_not_written {f : FieldShape} {members : List (String × Value)}
    (unwritten : f.isWritten members = false) : f.write members = pure () := by
  rw [FieldShape.write]
  by_cases counts : f.hasValue members = true
  · rw [if_pos counts]
    cases given : member? f.name members with
    | none => rfl
    | some v =>
      have silent : f.kind.isSilent v = true := by
        simpa [FieldShape.isWritten, FieldShape.isSilent, counts, given] using unwritten
      simp only [FieldShape.writeValue]
      cases kind : f.kind with
      | scalar | propertyBag =>
        rw [kind] at silent
        cases silent
      | list =>
        cases v with
        | null | array =>
          rw [kind] at silent
          cases silent
        | bool | number | string | object => rfl
      | classNameRef =>
        cases v with
        | string name =>
          rw [kind] at silent
          exact if_pos silent
        | null | bool | number | array | object => rfl
  · rw [if_neg counts]

/-- A blank line that is due ahead of lines holds no piece. -/
theorem filterMap_piece?_ahead (c : Cursor) (lines : List Line) :
    (c.ahead lines).filterMap Line.piece? = [] := by
  rw [Cursor.ahead]
  split <;> rfl

/-- The pieces that a section adds to a sheet are those on its lines. -/
theorem filterMap_piece?_added (c : Cursor) (lines : List Line) :
    (c.ahead lines ++ deeper c.depth lines).filterMap Line.piece? =
      lines.filterMap Line.piece? := by
  rw [List.filterMap_append, filterMap_piece?_ahead, filterMap_piece?_deeper, List.nil_append]

theorem pieces_write (f : FieldShape) (members : List (String × Value)) :
    (f.write members).pieces = (f.lines members).filterMap Line.piece? := by
  have run := write_joins f members (failure?_write f members) (Cursor.start 0) rfl
  rw [← Script.pieces_runOn (f.write members) 0]
  show (((Cursor.start 0).run (f.write members).marks).1).filterMap Line.piece? = _
  rw [run]
  exact filterMap_piece?_deeper 0 _

/-- A field adds a line to a sheet exactly if it is written. -/
theorem write_adds_line_iff (f : FieldShape) (members : List (String × Value)) (sheet : Sheet) :
    sheet.lines.length < ((f.write members).runOn sheet).lines.length ↔
      f.isWritten members = true := by
  constructor
  · intro more
    by_contra unwritten
    rw [write_of_not_written (by simpa using unwritten), runOn_pure] at more
    exact Nat.lt_irrefl _ more
  · intro written
    have field := fieldLines_written f members
    rw [if_pos written] at field
    obtain ⟨node, nodes, -⟩ := field
    have added := pieces_run sheet.cursor (f.write members).marks
    rw [← Script.pieces, pieces_write] at added
    have filled : (sheet.cursor.run (f.write members).marks).1 ≠ [] := by
      intro none
      rw [none] at added
      rw [nodesOf, ← added] at nodes
      cases nodes
    show _ < (sheet.lines ++ (sheet.cursor.run (f.write members).marks).1).length
    rw [List.length_append]
    exact Nat.lt_add_of_pos_right (List.length_pos_of_ne_nil filled)

/-- A silent field has a value that counts. -/
theorem hasValue_of_silent {f : FieldShape} {members : List (String × Value)}
    (silent : f.isSilent members = true) : f.hasValue members = true := by
  rw [FieldShape.isSilent] at silent
  rw [FieldShape.hasValue]
  cases given : member? f.name members with
  | none =>
    rw [given] at silent
    cases silent
  | some v =>
    rw [given, Option.any_some] at silent
    cases kind : f.kind with
    | scalar | propertyBag =>
      rw [kind] at silent
      cases silent
    | list =>
      rw [kind] at silent
      cases v with
      | null | array => cases silent
      | bool | number | string | object => rfl
    | classNameRef =>
      rw [kind] at silent
      cases v with
      | null => cases silent
      | array items => exact silent
      | bool | number | string | object => rfl

/-- The block of a bean has a property for each field that is written. -/
theorem shapedLines_written (name : String) (shape : BeanShape) (members : List (String × Value))
    (force : Bool) (counts : shape.fields.any (·.hasValue members) = true) :
    ∃ children, nodesOf (shapedLines name shape members force) =
        [.element "property" [("name", name)]
          [.element "bean" [("class", shape.className)] children]] ∧
      Tagged ["property"] children ∧
      children.map (attribute? "name") =
        (shape.fields.filter (·.isWritten members)).map fun f => some f.propertyName := by
  have whole := (fieldsLines_lists shape.fields members).whole
  have bean : WholeLines (beanAround shape.className (shape.fields.flatMap (·.lines members))) :=
    whole.element _ _
  refine ⟨_, ?_, fieldsLines_written shape.fields members⟩
  rw [shapedLines, if_pos counts, propertyAround, nodesOf_elementLines _ _ bean, beanAround,
    nodesOf_elementLines _ _ whole]
  rfl

/-- A field has a value exactly if it adds a line to a sheet, unless the value is silent.
Accordingly the block of a bean is there if any field has a value, and has a property for each field
that is written; if no field has a value, there is nothing, or a bean without content. -/
theorem presence_agrees_unless_silent (members : List (String × Value)) (sheet : Sheet) :
    (∀ f : FieldShape, (f.hasValue members = true ↔
        sheet.lines.length < ((f.write members).runOn sheet).lines.length) ↔
      f.isSilent members = false) ∧
    ∀ (name : String) (shape : BeanShape) (force : Bool), ∃ added,
      ((shapedBean name shape members force).runOn sheet).lines = sheet.lines ++ added ∧
      if shape.fields.any (·.hasValue members) then
        ∃ children, nodesOf added = [.element "property" [("name", name)]
            [.element "bean" [("class", shape.className)] children]] ∧
          Tagged ["property"] children ∧
          children.map (attribute? "name") =
            (shape.fields.filter fun f => f.hasValue members && !f.isSilent members).map
              fun f => some f.propertyName
      else
        let stub := if force then propertyAround name (bareBean shape.className) else []
        added = sheet.cursor.ahead stub ++ deeper sheet.cursor.depth stub := by
  refine ⟨fun f => ?_, fun name shape force => ?_⟩
  · rw [write_adds_line_iff, FieldShape.isWritten]
    cases silent : f.isSilent members with
    | false => simp
    | true => simp [hasValue_of_silent silent]
  · have run := shapedBean_opens name shape members force (failure?_shapedBean _ _ _ _) sheet.cursor
    refine ⟨sheet.cursor.ahead (shapedLines name shape members force) ++
      deeper sheet.cursor.depth (shapedLines name shape members force), ?_, ?_⟩
    · show sheet.lines ++ (sheet.cursor.run (shapedBean name shape members force).marks).1 = _
      rw [run]
    · split
      · rename_i counts
        rw [nodesOf, List.filterMap_append, filterMap_piece?_ahead, List.nil_append,
          filterMap_piece?_deeper]
        exact shapedLines_written name shape members force counts
      · rename_i none
        simp only [shapedLines, if_neg none]

/-- The name of a dialect without any character is a value, and nothing is written for it. -/
theorem presence_not_agreeing :
    ¬ ∀ (shape : BeanShape) (members : List (String × Value)) (sheet : Sheet),
      ∀ f ∈ shape.fields, f.hasValue members = true ↔
        sheet.lines.length < ((f.write members).runOn sheet).lines.length := by
  intro always
  have dialect := always .jdbcPojoStoreFactory (HasMembers.members (⟨none, some ""⟩ :
    JdbcPojoStoreFactory)) (Sheet.empty 0) ⟨"dialect", .classNameRef, none⟩ (by decide)
  exact absurd dialect (by decide)

end GridBeans.Generation
