import GridBeans.Markup.Sheet
import GridBeans.Proofs.Xml.Reader

/-!
# Forests

The elements that a list of pieces writes, built from the pieces themselves: nothing is escaped and
nothing is read back. A list of pieces is whole if each element in it is closed where it should be;
the forest of a whole list grows part by part.
-/
namespace GridBeans.Markup

open GridBeans.Xml

/-- The text of a value, as it was before it was written. -/
def AttributeValue.text : AttributeValue → String
  | .plain text => text
  | .written text => text

/-- An attribute with the text of its value. -/
def Attribute.stated (a : Attribute) : String × String :=
  (a.name, a.value.text)

/-- The nodes up to the first end tag without its start tag, and those between it and the next
such end tag, and so on. -/
abbrev Levels := List Node × List (List Node)

/-- The levels once a piece is put in front. -/
def Piece.grow (p : Piece) (levels : Levels) : Levels :=
  match p with
  | .emptyTag element attributes =>
    (.element element (attributes.map Attribute.stated) [] :: levels.1, levels.2)
  | .leaf element attributes text =>
    (.element element (attributes.map Attribute.stated) [.text text] :: levels.1, levels.2)
  | .startTag element attributes =>
    (.element element (attributes.map Attribute.stated) levels.1 :: levels.2.headD [],
      levels.2.tail)
  | .endTag _ => ([], levels.1 :: levels.2)
  | .comment _ | .verbatim _ => levels

/-- The nodes that pieces write. -/
def forest (pieces : List Piece) : List Node :=
  (pieces.foldr Piece.grow ([], [])).1

/-- The pieces in which each element is closed, in the right order. -/
inductive Whole : List Piece → Prop
  | nil : Whole []
  | emptyTag (element : String) (attributes : List Attribute) :
      Whole [.emptyTag element attributes]
  | leaf (element : String) (attributes : List Attribute) (text : String) :
      Whole [.leaf element attributes text]
  | comment (text : String) : Whole [.comment text]
  | element (element : String) (attributes : List Attribute) {inner : List Piece} :
      Whole inner → Whole (.startTag element attributes :: (inner ++ [.endTag element]))
  | append {front back : List Piece} : Whole front → Whole back → Whole (front ++ back)

/-- Whole pieces grow on one level. -/
theorem Whole.grow {pieces : List Piece} (whole : Whole pieces) :
    ∀ levels : Levels, pieces.foldr Piece.grow levels = (forest pieces ++ levels.1, levels.2) := by
  induction whole with
  | nil | emptyTag | leaf | comment => intro levels; rfl
  | @element name attributes inner _ ih =>
    have grown : ∀ levels : Levels,
        (Piece.startTag name attributes :: (inner ++ [.endTag name])).foldr Piece.grow levels =
          (.element name (attributes.map Attribute.stated) (forest inner) :: levels.1,
            levels.2) := by
      intro levels
      rw [List.foldr_cons, List.foldr_append, ih]
      simp [Piece.grow]
    intro levels
    rw [forest, grown, grown]
    rfl
  | append _ _ first second =>
    intro levels
    rw [forest, List.foldr_append, List.foldr_append, first, second, first, second]
    simp

/-- What whole pieces write comes first, and the nodes of the pieces behind them follow. -/
theorem forest_append {front back : List Piece} (wholeFront : Whole front) :
    forest (front ++ back) = forest front ++ forest back := by
  rw [forest, List.foldr_append, wholeFront.grow]
  rfl

theorem forest_element (element : String) (attributes : List Attribute) {inner : List Piece}
    (whole : Whole inner) :
    forest (.startTag element attributes :: (inner ++ [.endTag element])) =
      [.element element (attributes.map Attribute.stated) (forest inner)] := by
  rw [forest, List.foldr_cons, List.foldr_append, whole.grow]
  simp [Piece.grow]

end GridBeans.Markup
