import GridBeans.Proofs.Xml.Scanner

/-!
# Reading

Reads a text back into a tree of elements. Declarations and comments are skipped, the four entities
that are ever written are decoded, and blanks between tags mean nothing. Only the elements that hold
a single text keep what stands behind their start tag, blank or not.
-/
namespace GridBeans.Xml

/-- What a document says: elements with their attributes in order, and texts. -/
inductive Node where
  | element (name : String) (attributes : List (String × String)) (children : List Node)
  | text (content : String)
  deriving BEq, Repr

mutual

/-- The values of all attributes in a tree, in the order of the document. -/
def Node.attributeValues : Node → List String
  | .element _ attributes children => attributes.map Prod.snd ++ attributeValuesOf children
  | .text _ => []

def attributeValuesOf : List Node → List String
  | [] => []
  | node :: rest => node.attributeValues ++ attributeValuesOf rest

end

theorem attributeValuesOf_append (front back : List Node) :
    attributeValuesOf (front ++ back) = attributeValuesOf front ++ attributeValuesOf back := by
  induction front with
  | nil => rfl
  | cons node rest ih =>
    rw [List.cons_append, attributeValuesOf, attributeValuesOf, ih, List.append_assoc]

/-- Replaces the entities of ampersands, quotes and angle brackets; all else stays as it is. -/
def decode : List Char → List Char
  | '&' :: 'a' :: 'm' :: 'p' :: ';' :: rest => '&' :: decode rest
  | '&' :: 'q' :: 'u' :: 'o' :: 't' :: ';' :: rest => '"' :: decode rest
  | '&' :: 'l' :: 't' :: ';' :: rest => '<' :: decode rest
  | '&' :: 'g' :: 't' :: ';' :: rest => '>' :: decode rest
  | c :: rest => c :: decode rest
  | [] => []

/-- The elements whose content is a single text. -/
def isTextElement (name : List Char) : Bool :=
  name == "value".toList || name == "prop".toList

/-- An attribute as a reader sees it. -/
def RawAttribute.decoded (a : RawAttribute) : String × String :=
  (String.ofList a.name, String.ofList (decode a.value))

/-- An element whose end tag is still to come, with the nodes before it. -/
structure OpenElement where
  name : List Char
  attributes : List RawAttribute
  before : List Node

/-- The element once its children are known. -/
def OpenElement.close (e : OpenElement) (children : List Node) : Node :=
  .element (String.ofList e.name) (e.attributes.map RawAttribute.decoded) children

/-- The nodes that items say, given the elements that are open, the innermost first, and the nodes
read since the innermost start tag. None if an end tag does not match, an element stays open, or a
text stands where none belongs. -/
def readNodes : List Item → List OpenElement → List Node → Option (List Node)
  | [], [], nodes => some nodes
  | [], _ :: _, _ => none
  | ⟨.comment _, after⟩ :: rest, opened, nodes =>
    if after.all isSpace then readNodes rest opened nodes else none
  | ⟨.emptyTag name attributes _, after⟩ :: rest, opened, nodes =>
    if after.all isSpace then
      readNodes rest opened (nodes ++ [OpenElement.close ⟨name, attributes, []⟩ []])
    else none
  | ⟨.startTag name attributes _, after⟩ :: rest, opened, nodes =>
    if isTextElement name then
      readNodes rest (⟨name, attributes, nodes⟩ :: opened) [.text (String.ofList (decode after))]
    else if after.all isSpace then readNodes rest (⟨name, attributes, nodes⟩ :: opened) []
    else none
  | ⟨.endTag name _, after⟩ :: rest, e :: opened, nodes =>
    if e.name = name ∧ after.all isSpace then readNodes rest opened (e.before ++ [e.close nodes])
    else none
  | ⟨.endTag _ _, _⟩ :: _, [], _ => none

/-- The only node of a list. -/
def only : List Node → Option Node
  | [node] => some node
  | _ => none

/-- The element that a text consists of. -/
def readElement (text : String) : Option Node := do
  let items ← scanItems text.toList
  let nodes ← readNodes items [] []
  only nodes

/-- The text behind a declaration. -/
def skipDeclaration : List Char → Option (List Char)
  | '<' :: '?' :: rest => behindQuestion rest
  | _ => none
where
  /-- The text behind the first end of a declaration. -/
  behindQuestion : List Char → Option (List Char)
    | '?' :: '>' :: rest => some rest
    | _ :: rest => behindQuestion rest
    | [] => none

/-- The root element of a document. -/
def readDocument (text : String) : Option Node := do
  let body ← skipDeclaration text.toList
  let items ← scanItems (body.dropWhile isSpace)
  let nodes ← readNodes items [] []
  only nodes

/-! ## Declarations -/

/-- A declaration is skipped up to its first question mark, with the bracket behind it. -/
theorem behindQuestion_end (cs rest : List Char) (free : '?' ∉ cs) :
    skipDeclaration.behindQuestion (cs ++ '?' :: '>' :: rest) = some rest := by
  induction cs with
  | nil => rfl
  | cons c cs ih =>
    have different : c ≠ '?' := by
      rintro rfl
      exact free (by simp)
    have goesOn := ih fun inside => free (by simp [inside])
    rw [List.cons_append, skipDeclaration.behindQuestion, goesOn]
    intro tail same
    exact absurd same different

theorem isEncodingName_free {name : List Char} (named : isEncodingName name = true) :
    '?' ∉ name := by
  intro inside
  cases name with
  | nil => cases inside
  | cons c rest =>
    simp only [isEncodingName, Bool.and_eq_true, List.all_eq_true] at named
    rcases List.mem_cons.mp inside with rfl | inRest
    · exact absurd named.1 (by decide)
    · exact absurd (named.2 _ inRest) (by decide)

/-- The text behind a declaration is what was written behind it. -/
theorem skipDeclaration_write (d : Declaration) (legal : d.Legal) (rest : List Char) :
    skipDeclaration (d.write ++ rest) = some rest := by
  have headFree : '?' ∉ declarationHead := by decide
  have blankFree : '?' ∉ d.blank := by
    intro inside
    exact absurd (legal.blank _ inside) (by decide)
  have free : '?' ∉ declarationHead ++ (d.encoding ++ '"' :: d.blank) := by
    simp only [List.mem_append, List.mem_cons, headFree, isEncodingName_free legal.encoding,
      blankFree]
    decide
  have split : d.write ++ rest = '<' :: '?' ::
      ((declarationHead ++ (d.encoding ++ '"' :: d.blank)) ++ '?' :: '>' :: rest) := by
    simp only [Declaration.write, List.cons_append, List.append_assoc, List.nil_append]
  rw [split, skipDeclaration, behindQuestion_end _ _ free]

/-! ## Documents -/

theorem stopsAt_space_writeItems (items : List Item) : StopsAt isSpace (writeItems items) := by
  cases items with
  | nil => simp [StopsAt, writeItems]
  | cons i rest =>
    obtain ⟨cs, starts⟩ := i.markup.exists_write
    simp only [writeItems, List.flatMap_cons, Item.write, starts, List.cons_append, stopsAt_cons]
    decide

/-- The items of a document stand behind its declaration and the blanks after it. -/
theorem Document.skipHead {d : Document} (declaration : d.declaration.Legal)
    (lead : ∀ c ∈ d.lead, isSpace c = true) :
    (skipDeclaration d.write).map (List.dropWhile isSpace) = some (writeItems d.items) := by
  rw [Document.write, skipDeclaration_write d.declaration declaration, Option.map_some,
    dropWhile_run lead (stopsAt_space_writeItems d.items)]

/-- A written document with a legal declaration is read as the nodes of its items. -/
theorem readDocument_write {d : Document} (declaration : d.declaration.Legal)
    (lead : ∀ c ∈ d.lead, isSpace c = true) (readable : ∀ i ∈ d.items, i.Readable) {text : String}
    (written : text.toList = d.write) :
    readDocument text = (readNodes d.items [] []).bind only := by
  obtain ⟨body, skipped, same⟩ := Option.map_eq_some_iff.mp (Document.skipHead declaration lead)
  rw [readDocument, written, skipped]
  show (scanItems (body.dropWhile isSpace)).bind _ = _
  rw [same, scanItems_write d.items readable]
  rfl

/-- The items of a document are determined by its text, if all of them can be read. -/
theorem Document.items_injective {d e : Document} (declaration : d.declaration.Legal)
    (otherDeclaration : e.declaration.Legal) (lead : ∀ c ∈ d.lead, isSpace c = true)
    (otherLead : ∀ c ∈ e.lead, isSpace c = true) (readable : ∀ i ∈ d.items, i.Readable)
    (otherReadable : ∀ i ∈ e.items, i.Readable) (same : d.write = e.write) : d.items = e.items := by
  have behind := Document.skipHead declaration lead
  rw [same, Document.skipHead otherDeclaration otherLead] at behind
  exact writeItems_injective readable otherReadable (Option.some.inj behind).symm

end GridBeans.Xml
