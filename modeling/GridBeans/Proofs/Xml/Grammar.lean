import Mathlib.Data.List.Chain

/-!
# Well-formed XML

The part of XML 1.0 that a document needs when it has a declaration, elements, attributes in double
quotes, text, references to predefined entities and comments, and neither document types nor
processing instructions nor character data sections. A document is a list of items: one piece of
markup, with the character data up to the next one. What an item may hold is said for each item on
its own; that tags match is a property of the list.
-/
namespace GridBeans.Xml

/-! ## Characters -/

/-- A code lies in one of the ranges, first and last code. -/
def inRanges (ranges : List (Nat × Nat)) (c : Char) : Bool :=
  ranges.any fun r => decide (r.1 ≤ c.toNat) && decide (c.toNat ≤ r.2)

/-- The characters that a document may hold at all. -/
def isLegalChar (c : Char) : Bool :=
  inRanges [(0x9, 0xA), (0xD, 0xD), (0x20, 0xD7FF), (0xE000, 0xFFFD), (0x10000, 0x10FFFF)] c

/-- The characters that set markup apart. -/
def isSpace (c : Char) : Bool :=
  c == ' ' || c == '\t' || c == '\n' || c == '\r'

def nameStartRanges : List (Nat × Nat) :=
  [(0x3A, 0x3A), (0x41, 0x5A), (0x5F, 0x5F), (0x61, 0x7A), (0xC0, 0xD6), (0xD8, 0xF6),
    (0xF8, 0x2FF), (0x370, 0x37D), (0x37F, 0x1FFF), (0x200C, 0x200D), (0x2070, 0x218F),
    (0x2C00, 0x2FEF), (0x3001, 0xD7FF), (0xF900, 0xFDCF), (0xFDF0, 0xFFFD), (0x10000, 0xEFFFF)]

def isNameStart (c : Char) : Bool :=
  inRanges nameStartRanges c

def isNameChar (c : Char) : Bool :=
  isNameStart c ||
    inRanges [(0x2D, 0x2E), (0x30, 0x39), (0xB7, 0xB7), (0x300, 0x36F), (0x203F, 0x2040)] c

def isName : List Char → Bool
  | [] => false
  | c :: rest => isNameStart c && rest.all isNameChar

/-- The references to predefined entities. -/
def entityReferences : List (List Char) :=
  ["&amp;".toList, "&lt;".toList, "&gt;".toList, "&quot;".toList, "&apos;".toList]

/-- Every ampersand starts a reference to a predefined entity. -/
def hasOnlyReferences : List Char → Bool
  | [] => true
  | c :: rest =>
    (c != '&' || entityReferences.any (·.isPrefixOf (c :: rest))) && hasOnlyReferences rest

/-! ## Items -/

/-- An attribute in a tag: the blank before it, its name, and what stands between its quotes. -/
structure RawAttribute where
  blank : List Char
  name : List Char
  value : List Char
  deriving DecidableEq, Repr

/-- A comment or a tag. Tags keep the blank before their end. -/
inductive Markup where
  | comment (text : List Char)
  | startTag (name : List Char) (attributes : List RawAttribute) (blank : List Char)
  | emptyTag (name : List Char) (attributes : List RawAttribute) (blank : List Char)
  | endTag (name : List Char) (blank : List Char)
  deriving DecidableEq, Repr

/-- A piece of markup and the character data after it. -/
structure Item where
  markup : Markup
  after : List Char
  deriving DecidableEq, Repr

def RawAttribute.write (a : RawAttribute) : List Char :=
  a.blank ++ (a.name ++ '=' :: '"' :: (a.value ++ ['"']))

def Markup.write : Markup → List Char
  | .comment text => "<!--".toList ++ (text ++ "-->".toList)
  | .startTag name attributes blank =>
    '<' :: (name ++ (attributes.flatMap RawAttribute.write ++ (blank ++ ['>'])))
  | .emptyTag name attributes blank =>
    '<' :: (name ++ (attributes.flatMap RawAttribute.write ++ (blank ++ ['/', '>'])))
  | .endTag name blank => '<' :: '/' :: (name ++ (blank ++ ['>']))

def Item.write (i : Item) : List Char :=
  i.markup.write ++ i.after

def writeItems (items : List Item) : List Char :=
  items.flatMap Item.write

/-! ## What an item may hold -/

/-- The rules that a text is held to: those of XML, or all of them but the one that keeps raw angle
brackets out of attribute values. -/
inductive Rules where
  | xml
  | rawBrackets
  deriving DecidableEq, Repr

/-- An attribute value: no raw angle bracket or quote, and references only. -/
def isLegalValue (rules : Rules) (value : List Char) : Prop :=
  (rules = .xml → '<' ∉ value) ∧ '"' ∉ value ∧ hasOnlyReferences value ∧
    ∀ c ∈ value, isLegalChar c

/-- Character data: no raw angle bracket, no end of a character data section, and references
only. -/
def isLegalData (data : List Char) : Prop :=
  '<' ∉ data ∧ ¬ "]]>".toList <:+: data ∧ hasOnlyReferences data ∧ ∀ c ∈ data, isLegalChar c

structure RawAttribute.Legal (rules : Rules) (a : RawAttribute) : Prop where
  separated : a.blank ≠ []
  blank : ∀ c ∈ a.blank, isSpace c
  name : isName a.name
  value : isLegalValue rules a.value

/-- The attributes of one tag, whose names differ. -/
structure LegalAttributes (rules : Rules) (attributes : List RawAttribute) : Prop where
  each : ∀ a ∈ attributes, a.Legal rules
  distinct : (attributes.map RawAttribute.name).Nodup

/-- No hyphen follows a hyphen. -/
def HyphensApart (cs : List Char) : Prop :=
  cs.IsChain fun c d => c = '-' → d ≠ '-'

/-- A comment holds no two hyphens in a row, nor does it end in one. -/
def Markup.Legal (rules : Rules) : Markup → Prop
  | .comment text => HyphensApart (text ++ ['-']) ∧ ∀ c ∈ text, isLegalChar c
  | .startTag name attributes blank | .emptyTag name attributes blank =>
    isName name ∧ LegalAttributes rules attributes ∧ ∀ c ∈ blank, isSpace c
  | .endTag name blank => isName name ∧ ∀ c ∈ blank, isSpace c

structure Item.Legal (rules : Rules) (i : Item) : Prop where
  markup : i.markup.Legal rules
  after : isLegalData i.after

/-! ## Nesting -/

/-- Items in which every start tag is matched by an end tag of its name, properly nested. -/
inductive Content : List Item → Prop
  | nil : Content []
  | comment (text after : List Char) {rest : List Item} :
      Content rest → Content (⟨.comment text, after⟩ :: rest)
  | emptyTag (name : List Char) (attributes : List RawAttribute) (blank after : List Char)
      {rest : List Item} :
      Content rest → Content (⟨.emptyTag name attributes blank, after⟩ :: rest)
  | element (name : List Char) (attributes : List RawAttribute) (blank after : List Char)
      (endBlank endAfter : List Char) {inner rest : List Item} :
      Content inner → Content rest →
      Content (⟨.startTag name attributes blank, after⟩ ::
        (inner ++ ⟨.endTag name endBlank, endAfter⟩ :: rest))

/-- The items of one element, with nothing but blanks behind it. -/
inductive SingleElement : List Item → Prop
  | emptyTag (name : List Char) (attributes : List RawAttribute) (blank after : List Char) :
      (∀ c ∈ after, isSpace c) → SingleElement [⟨.emptyTag name attributes blank, after⟩]
  | element (name : List Char) (attributes : List RawAttribute) (blank after : List Char)
      (endBlank endAfter : List Char) {inner : List Item} :
      Content inner → (∀ c ∈ endAfter, isSpace c) →
      SingleElement (⟨.startTag name attributes blank, after⟩ ::
        (inner ++ [⟨.endTag name endBlank, endAfter⟩]))

/-- Comments among blanks, as they may stand around the root element. -/
def Miscellany (items : List Item) : Prop :=
  ∀ i ∈ items, (∃ text, i.markup = .comment text) ∧ ∀ c ∈ i.after, isSpace c

/-! ## Documents -/

/-- The declaration at the head of a document. -/
structure Declaration where
  encoding : List Char
  blank : List Char
  deriving DecidableEq, Repr

/-- What stands in a declaration before the name of the encoding. -/
def declarationHead : List Char := "xml version=\"1.0\" encoding=\"".toList

def Declaration.write (d : Declaration) : List Char :=
  '<' :: '?' :: (declarationHead ++ (d.encoding ++ '"' :: (d.blank ++ ['?', '>'])))

/-- The name of an encoding: letters, digits, points, underscores and hyphens after a letter. -/
def isEncodingName : List Char → Bool
  | [] => false
  | c :: rest =>
    c.isAlpha && rest.all fun c => c.isAlphanum || c == '.' || c == '_' || c == '-'

structure Declaration.Legal (d : Declaration) : Prop where
  encoding : isEncodingName d.encoding
  blank : ∀ c ∈ d.blank, isSpace c

/-- The parts of a document. -/
structure Document where
  declaration : Declaration
  lead : List Char
  before : List Item
  root : List Item
  after : List Item
  deriving DecidableEq, Repr

def Document.items (d : Document) : List Item :=
  d.before ++ (d.root ++ d.after)

def Document.write (d : Document) : List Char :=
  d.declaration.write ++ (d.lead ++ writeItems d.items)

structure Document.Legal (rules : Rules) (d : Document) : Prop where
  declaration : d.declaration.Legal
  lead : ∀ c ∈ d.lead, isSpace c
  before : Miscellany d.before
  root : SingleElement d.root
  after : Miscellany d.after
  items : ∀ i ∈ d.items, i.Legal rules

/-- The text is a document: a declaration, and one root element among comments and blanks. -/
def IsDocument (rules : Rules) (text : String) : Prop :=
  ∃ d : Document, d.Legal rules ∧ d.write = text.toList

/-- The text is one element. -/
def IsElement (rules : Rules) (text : String) : Prop :=
  ∃ items : List Item, SingleElement items ∧ (∀ i ∈ items, i.Legal rules) ∧
    writeItems items = text.toList

end GridBeans.Xml
