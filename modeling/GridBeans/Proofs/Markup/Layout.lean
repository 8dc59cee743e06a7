import GridBeans.Proofs.Markup.Written

/-!
# Layout

The text of a sheet is its pieces as items, with blanks behind each of them. Whole and proper pieces
are therefore read back as their forest, wherever blank lines stand and however deep the lines are
indented.
-/
namespace GridBeans.Markup

open GridBeans.Xml

def Mark.piece? : Mark → Option Piece
  | .line piece | .opening piece | .closing piece => some piece
  | .blank | .requestBlank | .sectionStart => none

def Line.piece? : Line → Option Piece
  | .blank => none
  | .content _ piece => some piece

/-- The pieces on the lines are those of the actions, in order. -/
theorem pieces_run (c : Cursor) (marks : List Mark) :
    (c.run marks).1.filterMap Line.piece? = marks.filterMap Mark.piece? := by
  induction marks generalizing c with
  | nil => rfl
  | cons m rest ih =>
    have step : (c.step m).1.toList.filterMap Line.piece? = m.piece?.toList := by
      cases m with
      | line | opening | closing | blank | requestBlank => rfl
      | sectionStart =>
        rw [Cursor.step]
        split <;> rfl
    rw [Cursor.run, List.filterMap_append, step, ih]
    cases same : m.piece? with
    | none => simp [same]
    | some piece => simp [same]

/-- A piece with the blanks behind it. -/
abbrev Placed := Piece × List Char

/-- The blanks before the first piece, and each piece with the blanks behind it. -/
def placed : List Line → List Char × List Placed
  | [] => ([], [])
  | .blank :: rest => ('\n' :: (placed rest).1, (placed rest).2)
  | .content depth piece :: rest =>
    ((indentation depth).toList, (piece, '\n' :: (placed rest).1) :: (placed rest).2)

def placedItems (pieces : List Placed) : List Item :=
  pieces.flatMap fun q => q.1.items q.2

theorem placed_pieces (lines : List Line) :
    (placed lines).2.map Prod.fst = lines.filterMap Line.piece? := by
  induction lines with
  | nil => rfl
  | cons line rest ih =>
    cases line with
    | blank => exact ih
    | content depth piece => exact congrArg (piece :: ·) ih

theorem indentation_blank (depth : Nat) : ∀ c ∈ (indentation depth).toList, isSpace c = true := by
  intro c mem
  rw [indentation, String.toList_ofList] at mem
  rw [List.eq_of_mem_replicate mem]
  decide

/-- Between the pieces of lines there is nothing but blanks: indentation, line ends and empty lines.
-/
theorem placed_blank (lines : List Line) :
    (∀ c ∈ (placed lines).1, isSpace c = true) ∧
      ∀ q ∈ (placed lines).2, ∀ c ∈ q.2, isSpace c = true := by
  induction lines with
  | nil => exact ⟨by simp [placed], by simp [placed]⟩
  | cons line rest ih =>
    obtain ⟨lead, behind⟩ := ih
    have lineEnd : ∀ c ∈ '\n' :: (placed rest).1, isSpace c = true := by
      intro c mem
      rcases List.mem_cons.mp mem with rfl | mem
      · decide
      · exact lead c mem
    cases line with
    | blank => exact ⟨lineEnd, behind⟩
    | content depth piece =>
      refine ⟨indentation_blank depth, fun q mem => ?_⟩
      rcases List.mem_cons.mp mem with rfl | mem
      · exact lineEnd
      · exact behind q mem

theorem renderLines_append (front back : List Line) :
    renderLines (front ++ back) = renderLines front ++ renderLines back := by
  simp [renderLines, String.join_append]

/-- The text of lines is the written form of their placed pieces. -/
theorem renderLines_toList {P : Char → Prop} (lines : List Line)
    (proper : ∀ p ∈ lines.filterMap Line.piece?, p.Proper P) :
    (renderLines lines).toList = (placed lines).1 ++ writeItems (placedItems (placed lines).2) := by
  induction lines with
  | nil => rfl
  | cons line rest ih =>
    have split : (renderLines (line :: rest)).toList =
        line.render.toList ++ '\n' :: (renderLines rest).toList := by
      simp [renderLines, String.toList_join]
    cases line with
    | blank =>
      have restProper : ∀ p ∈ rest.filterMap Line.piece?, p.Proper P := by
        simpa [Line.piece?] using proper
      rw [split, ih restProper]
      simp [Line.render, placed]
    | content depth piece =>
      have bothProper : piece.Proper P ∧ ∀ p ∈ rest.filterMap Line.piece?, p.Proper P := by
        simpa only [List.filterMap_cons, Line.piece?, List.forall_mem_cons] using proper
      have written := piece.writeItems_items bothProper.1 ('\n' :: (placed rest).1)
      rw [split, ih bothProper.2, Line.render]
      simp only [placed, placedItems, List.flatMap_cons, writeItems, List.flatMap_append,
        String.toList_append] at written ⊢
      rw [written]
      simp

theorem placedItems_cons (q : Placed) (rest : List Placed) :
    placedItems (q :: rest) = q.1.items q.2 ++ placedItems rest := rfl

theorem placedItems_append (front back : List Placed) :
    placedItems (front ++ back) = placedItems front ++ placedItems back := by
  simp [placedItems]

/-- A piece alone is placed once. -/
theorem places_of_piece {p : Piece} {places : List Placed} (same : places.map Prod.fst = [p]) :
    ∃ after, places = [(p, after)] := by
  obtain ⟨⟨piece, after⟩, others, rfl, rfl, none⟩ := List.map_eq_cons_iff.mp same
  rw [List.map_eq_nil_iff.mp none]
  exact ⟨after, rfl⟩

/-- Placed pieces of an element are its two tags around what is in it. -/
theorem places_of_element {name : String} {attributes : List Attribute} {inner : List Piece}
    {places : List Placed}
    (same : places.map Prod.fst = .startTag name attributes :: (inner ++ [.endTag name])) :
    ∃ after inside lastAfter,
      places = (.startTag name attributes, after) :: (inside ++ [(.endTag name, lastAfter)]) ∧
        inside.map Prod.fst = inner := by
  obtain ⟨⟨start, after⟩, others, rfl, rfl, sameOthers⟩ := List.map_eq_cons_iff.mp same
  obtain ⟨inside, last, rfl, sameInside, sameLast⟩ := List.map_eq_append_iff.mp sameOthers
  obtain ⟨lastAfter, rfl⟩ := places_of_piece sameLast
  exact ⟨after, inside, lastAfter, rfl, sameInside⟩

theorem placedItems_element (name : String) (attributes : List Attribute) (inside : List Placed)
    (after lastAfter : List Char) :
    placedItems ((.startTag name attributes, after) :: (inside ++ [(.endTag name, lastAfter)])) =
      ⟨.startTag name.toList (attributes.map Attribute.raw) [], after⟩ ::
        (placedItems inside ++ [⟨.endTag name.toList [], lastAfter⟩]) := by
  rw [placedItems_cons, placedItems_append]
  rfl

/-! ## Reading placed pieces -/

section

variable {P : Char → Prop} {after : List Char}

/-- An empty tag is read as one more node of the element that is open. -/
theorem readNodes_emptyTag {element : String} {attributes : List Attribute}
    (proper : (Piece.emptyTag element attributes).Proper P) (blank : ∀ c ∈ after, isSpace c = true)
    (rest : List Item) (opened : List OpenElement) (nodes : List Node) :
    readNodes (placedItems [(.emptyTag element attributes, after)] ++ rest) opened nodes =
      readNodes rest opened (nodes ++ forest [.emptyTag element attributes]) := by
  obtain ⟨-, -, attributesProper⟩ := proper
  have blankAfter : after.all isSpace = true := List.all_eq_true.mpr blank
  simp only [placedItems, List.flatMap_cons, List.flatMap_nil, List.append_nil, Piece.items,
    List.singleton_append, readNodes, blankAfter, if_true]
  simp [OpenElement.close, attributesProper.decoded, forest, Piece.grow]

/-- The text of a leaf is kept until its end tag, and is the one that was escaped. -/
theorem readNodes_leaf {element text : String} {attributes : List Attribute}
    (proper : (Piece.leaf element attributes text).Proper P) (blank : ∀ c ∈ after, isSpace c = true)
    (rest : List Item) (opened : List OpenElement) (nodes : List Node) :
    readNodes (placedItems [(.leaf element attributes text, after)] ++ rest) opened nodes =
      readNodes rest opened (nodes ++ forest [.leaf element attributes text]) := by
  obtain ⟨-, textual, attributesProper, -⟩ := proper
  have blankAfter : after.all isSpace = true := List.all_eq_true.mpr blank
  have decoded : decode (text.toList.flatMap (escapedForm textSpecials)) = text.toList :=
    decode_escaped (by decide) _
  simp only [placedItems, List.flatMap_cons, List.flatMap_nil, List.append_nil, Piece.items,
    List.cons_append, List.nil_append, readNodes, textual, if_true, blankAfter, and_self,
    escapeTextChars_eq_flatMap, decoded]
  simp [OpenElement.close, attributesProper.decoded, forest, Piece.grow]

/-- A comment is passed over; neither it nor the blanks behind it make a node. -/
theorem readNodes_comment (text : String) (blank : ∀ c ∈ after, isSpace c = true)
    (rest : List Item) (opened : List OpenElement) (nodes : List Node) :
    readNodes (placedItems [(.comment text, after)] ++ rest) opened nodes =
      readNodes rest opened (nodes ++ forest [.comment text]) := by
  have blankAfter : after.all isSpace = true := List.all_eq_true.mpr blank
  simp only [placedItems, List.flatMap_cons, List.flatMap_nil, List.append_nil, Piece.items,
    List.singleton_append, readNodes, blankAfter, if_true]
  simp [forest, Piece.grow]

/-- Reading the items of whole pieces adds their forest to the nodes read so far. -/
theorem Whole.reads {pieces : List Piece} (whole : Whole pieces) :
    ∀ places : List Placed, places.map Prod.fst = pieces →
      (∀ q ∈ places, q.1.Proper P ∧ ∀ c ∈ q.2, isSpace c = true) →
      ∀ (rest : List Item) (opened : List OpenElement) (nodes : List Node),
        readNodes (placedItems places ++ rest) opened nodes =
          readNodes rest opened (nodes ++ forest pieces) := by
  -- An element inside may be read with anything open and anything behind it.
  induction whole with
  | nil =>
    intro places same _ rest opened nodes
    rw [List.map_eq_nil_iff.mp same]
    simp [placedItems, forest]
  | emptyTag element attributes =>
    intro places same each rest opened nodes
    obtain ⟨after, rfl⟩ := places_of_piece same
    obtain ⟨proper, blank⟩ := each _ List.mem_cons_self
    exact readNodes_emptyTag proper blank rest opened nodes
  | leaf element attributes text =>
    intro places same each rest opened nodes
    obtain ⟨after, rfl⟩ := places_of_piece same
    obtain ⟨proper, blank⟩ := each _ List.mem_cons_self
    exact readNodes_leaf proper blank rest opened nodes
  | comment text =>
    intro places same each rest opened nodes
    obtain ⟨after, rfl⟩ := places_of_piece same
    obtain ⟨-, blank⟩ := each _ List.mem_cons_self
    exact readNodes_comment text blank rest opened nodes
  | @element name attributes inner wholeInner ih =>
    intro places same each rest opened nodes
    obtain ⟨after, inside, lastAfter, rfl, sameInside⟩ := places_of_element same
    obtain ⟨⟨-, structural, proper⟩, blank⟩ := each (.startTag name attributes, after)
      List.mem_cons_self
    obtain ⟨-, lastBlank⟩ := each (.endTag name, lastAfter) (by simp)
    have blankAfter : after.all isSpace = true := List.all_eq_true.mpr blank
    have blankLast : lastAfter.all isSpace = true := List.all_eq_true.mpr lastBlank
    have readInside := ih inside sameInside fun q mem => each q (by simp [mem])
    rw [placedItems_element, List.cons_append, List.append_assoc,
      forest_element name attributes wholeInner, readNodes, structural, if_neg (by decide),
      if_pos blankAfter, readInside, List.singleton_append, readNodes, if_pos ⟨rfl, blankLast⟩]
    simp [OpenElement.close, proper.decoded]
  | append wholeFront _ first second =>
    intro places same each rest opened nodes
    obtain ⟨front, back, rfl, sameFront, sameBack⟩ := List.map_eq_append_iff.mp same
    rw [placedItems_append, List.append_assoc,
      first front sameFront fun q mem => each q (by simp [mem]),
      second back sameBack fun q mem => each q (by simp [mem]), forest_append wholeFront,
      List.append_assoc]

end

end GridBeans.Markup
