import GridBeans.Proofs.Markup.Layout

/-!
# Legal pieces

What stands between a proper piece and well-formed markup: an angle bracket in the value of an
attribute is written as it is. Everything else that markup demands of a piece holds already, so
under the rules that let such brackets pass every proper piece is legal.
-/
namespace GridBeans.Markup

open GridBeans.Xml

variable {P : Char → Prop} {rules : Rules}

def Piece.attributes : Piece → List Attribute
  | .startTag _ attributes | .emptyTag _ attributes | .leaf _ attributes _ => attributes
  | .endTag _ | .comment _ | .verbatim _ => []

/-- The value of no attribute holds an angle bracket. -/
def AngleFree (attributes : List Attribute) : Prop :=
  ∀ a ∈ attributes, '<' ∉ a.value.text.toList

/-! ## Values and data -/

theorem isLegalChar_escaped (legal : ∀ c, P c → isLegalChar c = true) {escaped cs : List Char}
    (ampersand : '&' ∈ escaped) (admitted : ∀ c ∈ cs, P c) :
    ∀ c ∈ cs.flatMap (escapedForm escaped), isLegalChar c = true := by
  intro c mem
  rcases mem_escaped ampersand mem with ofEntity | inside
  · have all : ∀ d ∈ "&ampquotlg;".toList, isLegalChar d = true :=
      List.all_eq_true.mp (by decide)
    exact all c ofEntity
  · exact legal c (admitted c inside)

/-- A value is legal in XML exactly if its text has no angle bracket, for brackets are not
escaped. -/
theorem AttributeValue.Proper.isLegalValue_iff (legal : ∀ c, P c → isLegalChar c = true)
    {v : AttributeValue} (proper : v.Proper P) :
    isLegalValue rules v.render.toList ↔ (rules = .xml → '<' ∉ v.text.toList) := by
  cases v with
  | plain text =>
    have quotes := (AttributeValue.Proper.render proper).2
    simp only [AttributeValue.render, escapeAttribute, String.toList_ofList,
      escapeAttributeChars_eq_flatMap] at quotes ⊢
    constructor
    · intro legalValue isXml inText
      exact legalValue.1 isXml (mem_escaped_of_mem (by decide) inText)
    · intro free
      refine ⟨fun isXml mem => ?_, quotes, hasOnlyReferences_escaped (by decide) _,
        isLegalChar_escaped legal (by decide) proper⟩
      rcases mem_escaped (by decide) mem with ofEntity | inText
      · exact absurd ofEntity (by decide)
      · exact free isXml inText
  | written text =>
    have cases := fun c mem => isPlainChar_cases (proper c mem)
    have free : '<' ∉ text.toList := fun mem => (cases '<' mem).2.2.1 rfl
    refine ⟨fun _ _ => free, fun _ => ⟨fun _ => free, fun mem => (cases '"' mem).2.1 rfl,
      hasOnlyReferences_of_plain proper, fun c mem => (cases c mem).2.2.2⟩⟩

theorem isLegalData_of_no_bracket {data : List Char} (free : '<' ∉ data) (noEnd : '>' ∉ data)
    (references : hasOnlyReferences data = true) (chars : ∀ c ∈ data, isLegalChar c = true) :
    isLegalData data := by
  refine ⟨free, fun ends => noEnd (ends.subset ?_), references, chars⟩
  decide

theorem isLegalData_blank {data : List Char} (blank : ∀ c ∈ data, isSpace c = true) :
    isLegalData data := by
  have outside : ∀ c, isSpace c = false → c ∉ data := by
    intro c other mem
    rw [blank c mem] at other
    cases other
  refine isLegalData_of_no_bracket (outside '<' (by decide)) (outside '>' (by decide)) ?_ ?_
  · have references : ∀ cs : List Char, '&' ∉ cs → hasOnlyReferences cs = true := by
      intro cs free
      induction cs with
      | nil => rfl
      | cons c cs ih =>
        simp only [List.mem_cons, not_or] at free
        simp [hasOnlyReferences, ih free.2, Ne.symm free.1]
    exact references data (outside '&' (by decide))
  · intro c mem
    have spaces : c = ' ' ∨ c = '\t' ∨ c = '\n' ∨ c = '\r' := by
      simpa [isSpace, or_assoc] using blank c mem
    rcases spaces with rfl | rfl | rfl | rfl <;> decide

/-- An escaped text is legal data, whatever brackets and ampersands it has. -/
theorem isLegalData_text (legal : ∀ c, P c → isLegalChar c = true) {text : String}
    (admitted : Over P text) : isLegalData (escapeTextChars text.toList) := by
  rw [escapeTextChars_eq_flatMap]
  exact isLegalData_of_no_bracket (not_mem_escaped (by decide) (by decide) _)
    (not_mem_escaped (by decide) (by decide) _) (hasOnlyReferences_escaped (by decide) _)
    (isLegalChar_escaped legal (by decide) admitted)

/-! ## Pieces -/

theorem ProperAttributes.legal_iff (legal : ∀ c, P c → isLegalChar c = true)
    {attributes : List Attribute} (proper : ProperAttributes P attributes) :
    LegalAttributes rules (attributes.map Attribute.raw) ↔
      (rules = .xml → AngleFree attributes) := by
  constructor
  · intro legalAttributes isXml a mem
    have value := (legalAttributes.each a.raw (List.mem_map_of_mem mem)).value
    exact (AttributeValue.Proper.isLegalValue_iff legal (proper.values a mem)).mp value isXml
  · intro free
    refine ⟨fun raw mem => ?_, ?_⟩
    · obtain ⟨a, inside, rfl⟩ := List.mem_map.mp mem
      have value := (AttributeValue.Proper.isLegalValue_iff legal (proper.values a inside)).mpr
        fun isXml => free isXml a inside
      exact ⟨by simp [Attribute.raw], by simp [Attribute.raw, isSpace], proper.names a inside,
        value⟩
    · have names : (attributes.map Attribute.raw).map RawAttribute.name =
          (attributes.map Attribute.name).map String.toList := by
        simp [Attribute.raw]
      rw [names]
      have distinct : (attributes.map Attribute.name).Pairwise (· ≠ ·) := proper.distinct
      exact List.pairwise_map.mpr
        (distinct.imp fun different same => different (String.toList_injective same))

/-- The items of a proper piece are legal in XML exactly if its attributes hold no angle
bracket. -/
theorem Piece.Proper.items_legal_iff (legal : ∀ c, P c → isLegalChar c = true) {p : Piece}
    (proper : p.Proper P) {after : List Char} (blank : ∀ c ∈ after, isSpace c = true) :
    (∀ i ∈ p.items after, i.Legal rules) ↔ (rules = .xml → AngleFree p.attributes) := by
  have legalAfter := isLegalData_blank blank
  cases p with
  | startTag element attributes | emptyTag element attributes =>
    obtain ⟨named, -, attributesProper⟩ := proper
    rw [Piece.attributes, ← attributesProper.legal_iff legal, Piece.items,
      List.forall_mem_singleton]
    constructor
    · intro item
      exact item.markup.2.1
    · intro attributesLegal
      exact ⟨⟨named, attributesLegal, by simp⟩, legalAfter⟩
  | endTag element =>
    rw [Piece.items, List.forall_mem_singleton]
    exact ⟨fun _ _ => List.forall_mem_nil _, fun _ => ⟨⟨proper, by simp⟩, legalAfter⟩⟩
  | leaf element attributes text =>
    obtain ⟨named, -, attributesProper, admitted⟩ := proper
    rw [Piece.attributes, ← attributesProper.legal_iff legal, Piece.items, List.forall_mem_cons,
      List.forall_mem_singleton]
    constructor
    · intro items
      exact items.1.markup.2.1
    · intro attributesLegal
      exact ⟨⟨⟨named, attributesLegal, by simp⟩, isLegalData_text legal admitted⟩,
        ⟨⟨named, by simp⟩, legalAfter⟩⟩
  | comment text =>
    rw [Piece.items, List.forall_mem_singleton]
    refine ⟨fun _ _ => List.forall_mem_nil _, fun _ => ⟨⟨?_, ?_⟩, legalAfter⟩⟩
    · exact hyphensApart_padded (hyphensApart_of_not_mem proper.2)
    · intro c mem
      simp only [List.mem_cons, List.mem_append, List.not_mem_nil, or_false] at mem
      rcases mem with rfl | inText | rfl
      · decide
      · exact (isPlainChar_cases (proper.1 c inText)).2.2.2
      · decide
  | verbatim text => exact proper.elim

/-! ## Trees -/

/-- The attribute values of a forest are those of its pieces. -/
theorem Whole.attributeValues {pieces : List Piece} (whole : Whole pieces) :
    attributeValuesOf (forest pieces) =
      pieces.flatMap fun p => p.attributes.map (·.value.text) := by
  have stated : ∀ attributes : List Attribute,
      (attributes.map Attribute.stated).map Prod.snd = attributes.map (·.value.text) := by
    intro attributes
    rw [List.map_map]
    rfl
  induction whole with
  | nil => rfl
  | emptyTag element attributes =>
    simp [forest, Piece.grow, attributeValuesOf, Node.attributeValues, stated, Piece.attributes]
  | leaf element attributes text =>
    simp [forest, Piece.grow, attributeValuesOf, Node.attributeValues, stated, Piece.attributes]
  | comment text => rfl
  | element name attributes wholeInner ih =>
    rw [forest_element name attributes wholeInner, attributeValuesOf, Node.attributeValues, stated,
      ih]
    simp [attributeValuesOf, Piece.attributes]
  | append wholeFront _ first second =>
    rw [forest_append wholeFront, attributeValuesOf_append, first, second, List.flatMap_append]

/-- No attribute of whole pieces has an angle bracket exactly if no attribute value of their nodes
has one. -/
theorem Whole.angleFree_iff {pieces : List Piece} (whole : Whole pieces) :
    (∀ p ∈ pieces, AngleFree p.attributes) ↔
      ∀ value ∈ attributeValuesOf (forest pieces), '<' ∉ value.toList := by
  rw [whole.attributeValues]
  simp only [List.mem_flatMap, List.mem_map, AngleFree]
  constructor
  · rintro free value ⟨p, inside, a, mem, rfl⟩
    exact free p inside a mem
  · intro free p inside a mem
    exact free _ ⟨p, inside, a, mem, rfl⟩

/-! ## Nesting -/

theorem content_append {front back : List Item} (first : Content front) (second : Content back) :
    Content (front ++ back) := by
  induction first with
  | nil => exact second
  | comment text after _ ih => exact .comment text after ih
  | emptyTag name attributes blank after _ ih => exact .emptyTag name attributes blank after ih
  | element name attributes blank after endBlank endAfter inner _ _ ih =>
    rw [List.cons_append, List.append_assoc, List.cons_append]
    exact .element name attributes blank after endBlank endAfter inner ih

/-- The items of whole pieces are content of an element: their tags match. -/
theorem Whole.content {pieces : List Piece} (whole : Whole pieces) :
    ∀ places : List Placed, places.map Prod.fst = pieces → Content (placedItems places) := by
  induction whole with
  | nil =>
    intro places same
    rw [List.map_eq_nil_iff.mp same]
    exact .nil
  | emptyTag element attributes =>
    intro places same
    obtain ⟨after, rfl⟩ := places_of_piece same
    exact .emptyTag _ _ _ after .nil
  | leaf element attributes text =>
    intro places same
    obtain ⟨after, rfl⟩ := places_of_piece same
    exact .element _ _ _ _ _ after .nil .nil
  | comment text =>
    intro places same
    obtain ⟨after, rfl⟩ := places_of_piece same
    exact .comment _ after .nil
  | element name attributes _ ih =>
    intro places same
    obtain ⟨after, inside, lastAfter, rfl, sameInside⟩ := places_of_element same
    rw [placedItems_element]
    exact .element _ _ _ after _ lastAfter (ih inside sameInside) .nil
  | append _ _ first second =>
    intro places same
    obtain ⟨front, back, rfl, sameFront, sameBack⟩ := List.map_eq_append_iff.mp same
    rw [placedItems_append]
    exact content_append (first front sameFront) (second back sameBack)

end GridBeans.Markup
