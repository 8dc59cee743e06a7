import GridBeans.Proofs.Markup.Comment
import GridBeans.Proofs.Markup.Escape
import GridBeans.Proofs.Markup.Forest

/-!
# Written pieces

A piece is proper if its texts are over a class of characters and nothing in it needs an escape
that it does not get. A proper piece is written as items that can be scanned, and its attributes
are decoded to the texts they were written from.
-/
namespace GridBeans.Markup

open GridBeans.Xml

/-! ## Texts over a class of characters -/

/-- Every character of the text is in the class. -/
def Over (P : Char → Prop) (text : String) : Prop :=
  ∀ c ∈ text.toList, P c

/-- The characters that mean nothing to markup: letters, digits, blanks and some punctuation. -/
def isPlainChar (c : Char) : Bool :=
  c.isAlphanum || [' ', '\n', '.', '/', '_', ':', '+', '-', '$', '\x7b', '\x7d'].contains c

/-- A text that is the same raw and written. -/
def Plain (text : String) : Prop :=
  Over (isPlainChar · = true) text

/-- A class of characters that the plain ones are in. -/
class AdmitsPlain (P : Char → Prop) : Prop where
  admits : ∀ c, isPlainChar c = true → P c

instance : AdmitsPlain fun _ => True := ⟨fun _ _ => trivial⟩

theorem Plain.over {P : Char → Prop} [AdmitsPlain P] {text : String} (plain : Plain text) :
    Over P text :=
  fun c mem => AdmitsPlain.admits c (plain c mem)

theorem over_append {P : Char → Prop} {front back : String} :
    Over P (front ++ back) ↔ Over P front ∧ Over P back := by
  simp only [Over, String.toList_append, List.forall_mem_append]

theorem over_ofList {P : Char → Prop} {cs : List Char} :
    Over P (String.ofList cs) ↔ ∀ c ∈ cs, P c := by
  simp only [Over, String.toList_ofList]

theorem plain_append {front back : String} : Plain (front ++ back) ↔ Plain front ∧ Plain back :=
  over_append

theorem plain_ofList {cs : List Char} :
    Plain (String.ofList cs) ↔ ∀ c ∈ cs, isPlainChar c = true :=
  over_ofList

/-- A literal is a list of characters to the kernel, so it is not decoded to be checked. -/
theorem plain_literal {cs : List Char} (plain : cs.all isPlainChar = true) :
    Plain (String.ofList cs) :=
  plain_ofList.mpr (List.all_eq_true.mp plain)

theorem isAlphanum_range {c : Char} (alphanumeric : c.isAlphanum = true) :
    0x20 ≤ c.toNat ∧ c.toNat ≤ 0xD7FF := by
  have ranges : ((decide (c.val ≥ 'A'.val ∧ c.val ≤ 'Z'.val) ||
      (decide (c.val ≥ 'a'.val) && decide (c.val ≤ 'z'.val))) ||
      (decide (c.val ≥ '0'.val) && decide (c.val ≤ '9'.val))) = true := alphanumeric
  simp only [Bool.or_eq_true, Bool.and_eq_true, decide_eq_true_eq, UInt32.le_iff_toNat_le,
    ge_iff_le] at ranges
  have code : c.toNat = c.val.toNat := rfl
  have firstUpper : 'A'.val.toNat = 65 := rfl
  have lastUpper : 'Z'.val.toNat = 90 := rfl
  have firstLower : 'a'.val.toNat = 97 := rfl
  have lastLower : 'z'.val.toNat = 122 := rfl
  have firstDigit : '0'.val.toNat = 48 := rfl
  have lastDigit : '9'.val.toNat = 57 := rfl
  omega

/-- A plain character is legal, and none of those with a meaning in markup. -/
theorem isPlainChar_cases {c : Char} (plain : isPlainChar c = true) :
    c ≠ '&' ∧ c ≠ '"' ∧ c ≠ '<' ∧ isLegalChar c = true := by
  simp only [isPlainChar, Bool.or_eq_true, List.contains_iff_mem] at plain
  rcases plain with alphanumeric | punctuation
  · refine ⟨?_, ?_, ?_, ?_⟩
    · rintro rfl
      exact absurd alphanumeric (by decide)
    · rintro rfl
      exact absurd alphanumeric (by decide)
    · rintro rfl
      exact absurd alphanumeric (by decide)
    · simp [isLegalChar, inRanges, isAlphanum_range alphanumeric]
  · have all : ∀ d ∈ [' ', '\n', '.', '/', '_', ':', '+', '-', '$', '\x7b', '\x7d'],
        (d != '&' && (d != '"' && (d != '<' && isLegalChar d))) = true :=
      List.all_eq_true.mp (by decide)
    simpa using all c punctuation

instance : AdmitsPlain (isLegalChar · = true) := ⟨fun _ plain => (isPlainChar_cases plain).2.2.2⟩

/-- Nothing in a plain text is decoded. -/
theorem decode_of_plain {cs : List Char} (plain : ∀ c ∈ cs, isPlainChar c = true) :
    decode cs = cs := by
  induction cs with
  | nil => rfl
  | cons c cs ih =>
    have others := ih fun d mem => plain d (by simp [mem])
    rw [decode_cons (isPlainChar_cases (plain c (by simp))).1, others]

theorem hasOnlyReferences_of_plain {cs : List Char} (plain : ∀ c ∈ cs, isPlainChar c = true) :
    hasOnlyReferences cs = true := by
  induction cs with
  | nil => rfl
  | cons c cs ih =>
    have different := (isPlainChar_cases (plain c (by simp))).1
    simp [hasOnlyReferences, different, ih fun d mem => plain d (by simp [mem])]

/-! ## Proper pieces -/

/-- The value can be written: a text over the class, or one that needs no escaping. -/
def AttributeValue.Proper (P : Char → Prop) : AttributeValue → Prop
  | .plain text => Over P text
  | .written text => Plain text

/-- The attributes of a tag, whose names differ. -/
structure ProperAttributes (P : Char → Prop) (attributes : List Attribute) : Prop where
  names : ∀ a ∈ attributes, isName a.name.toList
  values : ∀ a ∈ attributes, a.value.Proper P
  distinct : (attributes.map Attribute.name).Nodup

theorem isName_literal {cs : List Char} (named : isName cs = true) :
    isName (String.ofList cs).toList = true := by
  rw [String.toList_ofList]
  exact named

theorem ProperAttributes.nil {P : Char → Prop} : ProperAttributes P [] :=
  ⟨nofun, nofun, .nil⟩

/-- One more attribute is proper with the others, if no other has its name. -/
theorem ProperAttributes.cons {P : Char → Prop} {name : List Char} {value : AttributeValue}
    {rest : List Attribute} (named : isName name = true) (proper : value.Proper P)
    (new : ∀ a ∈ rest, a.name ≠ String.ofList name) (others : ProperAttributes P rest) :
    ProperAttributes P (⟨String.ofList name, value⟩ :: rest) := by
  refine ⟨List.forall_mem_cons.mpr ⟨?_, others.names⟩,
    List.forall_mem_cons.mpr ⟨proper, others.values⟩, List.nodup_cons.mpr ⟨?_, others.distinct⟩⟩
  · exact isName_literal named
  · intro mem
    obtain ⟨a, inside, same⟩ := List.mem_map.mp mem
    exact new a inside same

/-- Attributes of a tag with one attribute. -/
theorem ProperAttributes.one {P : Char → Prop} {name : List Char} {value : AttributeValue}
    (named : isName name = true) (proper : value.Proper P) :
    ProperAttributes P [⟨String.ofList name, value⟩] :=
  .cons named proper nofun .nil

/-- The piece can be written and read back: its texts are over the class, and it holds text exactly
if its element does. -/
def Piece.Proper (P : Char → Prop) : Piece → Prop
  | .startTag element attributes | .emptyTag element attributes =>
    isName element.toList ∧ isTextElement element.toList = false ∧ ProperAttributes P attributes
  | .endTag element => isName element.toList
  | .leaf element attributes text =>
    isName element.toList ∧ isTextElement element.toList = true ∧
      ProperAttributes P attributes ∧ Over P text
  | .comment text => Plain text ∧ '-' ∉ text.toList
  | .verbatim _ => False

/-- A name for elements that hold elements. -/
structure Structural (element : String) : Prop where
  named : isName element.toList
  other : isTextElement element.toList = false

theorem structural_literal {cs : List Char} (named : isName cs = true)
    (other : isTextElement cs = false) : Structural (String.ofList cs) := by
  refine ⟨isName_literal named, ?_⟩
  rw [String.toList_ofList]
  exact other

/-! ## Pieces as items -/

def Attribute.raw (a : Attribute) : RawAttribute :=
  ⟨[' '], a.name.toList, a.value.render.toList⟩

/-- The items that a piece is written as, given the blanks behind it. -/
def Piece.items (after : List Char) : Piece → List Item
  | .startTag element attributes =>
    [⟨.startTag element.toList (attributes.map Attribute.raw) [], after⟩]
  | .emptyTag element attributes =>
    [⟨.emptyTag element.toList (attributes.map Attribute.raw) [], after⟩]
  | .endTag element => [⟨.endTag element.toList [], after⟩]
  | .leaf element attributes text =>
    [⟨.startTag element.toList (attributes.map Attribute.raw) [], escapeTextChars text.toList⟩,
      ⟨.endTag element.toList [], after⟩]
  | .comment text => [⟨.comment (' ' :: (text.toList ++ [' '])), after⟩]
  | .verbatim _ => []

theorem Attribute.write_raw (a : Attribute) : a.raw.write = a.render.toList := by
  simp [Attribute.raw, RawAttribute.write, Attribute.render]

theorem renderAttributes_toList (attributes : List Attribute) :
    (renderAttributes attributes).toList =
      (attributes.map Attribute.raw).flatMap RawAttribute.write := by
  simp only [renderAttributes, String.toList_join, List.flatMap_map]
  congr 1
  funext a
  exact a.write_raw.symm

/-- A proper piece is rendered as its items are written, with the blanks behind it. -/
theorem Piece.writeItems_items {P : Char → Prop} {p : Piece} (proper : p.Proper P)
    (after : List Char) : writeItems (p.items after) = p.render.toList ++ after := by
  cases p with
  | startTag element attributes =>
    simp [Piece.items, Piece.render, writeItems, Item.write, Markup.write, renderAttributes_toList]
  | emptyTag element attributes =>
    simp [Piece.items, Piece.render, writeItems, Item.write, Markup.write, renderAttributes_toList]
  | endTag element =>
    simp [Piece.items, Piece.render, writeItems, Item.write, Markup.write]
  | leaf element attributes text =>
    simp [Piece.items, Piece.render, writeItems, Item.write, Markup.write, renderAttributes_toList,
      escapeText]
  | comment text =>
    simp [Piece.items, Piece.render, writeItems, Item.write, Markup.write]
  | verbatim text => exact proper.elim

/-- A proper value is decoded to its text, and has no quote when it is written. -/
theorem AttributeValue.Proper.render {P : Char → Prop} {v : AttributeValue} (proper : v.Proper P) :
    decode v.render.toList = v.text.toList ∧ '"' ∉ v.render.toList := by
  cases v with
  | plain text =>
    simp only [AttributeValue.render, escapeAttribute, String.toList_ofList,
      escapeAttributeChars_eq_flatMap]
    exact ⟨decode_escaped (by decide) _, not_mem_escaped (by decide) (by decide) _⟩
  | written text =>
    exact ⟨decode_of_plain proper, fun mem => (isPlainChar_cases (proper _ mem)).2.1 rfl⟩

/-- A reader sees proper attributes with the texts they were given. -/
theorem ProperAttributes.decoded {P : Char → Prop} {attributes : List Attribute}
    (proper : ProperAttributes P attributes) :
    (attributes.map Attribute.raw).map RawAttribute.decoded = attributes.map Attribute.stated := by
  rw [List.map_map]
  apply List.map_congr_left
  intro a mem
  have value := (proper.values a mem).render.1
  simp [Attribute.raw, RawAttribute.decoded, Attribute.stated, value]

theorem ProperAttributes.readable {P : Char → Prop} {attributes : List Attribute}
    (proper : ProperAttributes P attributes) :
    ∀ a ∈ attributes.map Attribute.raw, a.Readable ∧ a.blank ≠ [] := by
  intro raw mem
  obtain ⟨a, inside, rfl⟩ := List.mem_map.mp mem
  refine ⟨⟨?_, proper.names a inside, (proper.values a inside).render.2⟩, by simp [Attribute.raw]⟩
  simp [Attribute.raw, isSpace]

/-- The items of a proper piece can be scanned. -/
theorem Piece.Proper.readable {P : Char → Prop} {p : Piece} (proper : p.Proper P)
    {after : List Char} (blank : ∀ c ∈ after, isSpace c = true) :
    ∀ i ∈ p.items after, i.Readable := by
  have noAngle : '<' ∉ after := fun mem => absurd (blank _ mem) (by decide)
  intro i mem
  cases p with
  | startTag element attributes | emptyTag element attributes =>
    obtain ⟨named, -, attributesProper⟩ := proper
    rw [Piece.items, List.mem_singleton] at mem
    subst mem
    exact ⟨⟨named, attributesProper.readable, by simp⟩, noAngle⟩
  | endTag element =>
    rw [Piece.items, List.mem_singleton] at mem
    subst mem
    exact ⟨⟨proper, by simp⟩, noAngle⟩
  | leaf element attributes text =>
    obtain ⟨named, -, attributesProper, -⟩ := proper
    rcases List.mem_cons.mp mem with rfl | mem
    · refine ⟨⟨named, attributesProper.readable, by simp⟩, ?_⟩
      simp only [escapeTextChars_eq_flatMap]
      exact not_mem_escaped (by decide) (by decide) _
    · rw [List.mem_singleton] at mem
      subst mem
      exact ⟨⟨named, by simp⟩, noAngle⟩
  | comment text =>
    rw [Piece.items, List.mem_singleton] at mem
    subst mem
    refine ⟨hyphensApart_padded ?_, noAngle⟩
    exact hyphensApart_of_not_mem proper.2
  | verbatim text => exact proper.elim

end GridBeans.Markup
