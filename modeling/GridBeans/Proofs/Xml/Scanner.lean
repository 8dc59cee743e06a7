import GridBeans.Proofs.Xml.Grammar

/-!
# Scanning

Cuts a text into the items it is written from. An attribute value ends at the next quote, character
data at the next angle bracket and a comment at the next three characters that end one, so a text
has at most one list of items: `scanItems_write` gives the items back, and two lists of items with
one written form are equal (`writeItems_injective`). Scanning asks for less than well-formedness:
raw angle brackets in attribute values and stray ampersands pass.
-/
namespace GridBeans.Xml

/-! ## Repetition -/

/-- Reads as often as the reader succeeds and gets on; what was read, and the rest. -/
def many {α : Type} (read : List Char → Option (α × List Char)) (cs : List Char) :
    List α × List Char :=
  match read cs with
  | none => ([], cs)
  | some (a, rest) =>
    if rest.length < cs.length then
      let (as, last) := many read rest
      (a :: as, last)
    else ([], cs)
termination_by cs.length

theorem many_of_none {α : Type} {read : List Char → Option (α × List Char)} {cs : List Char}
    (stops : read cs = none) : many read cs = ([], cs) := by
  rw [many, stops]

/-- Reading again and again goes on behind what was read, as long as the text gets shorter. -/
theorem many_of_some {α : Type} {read : List Char → Option (α × List Char)} {cs rest : List Char}
    {a : α} (reads : read cs = some (a, rest)) (shorter : rest.length < cs.length) :
    many read cs = (a :: (many read rest).1, (many read rest).2) := by
  rw [many, reads]
  simp only [if_pos shorter]

/-- A reader that reads one written form after the other reads all of them. -/
theorem many_flatMap {α : Type} {read : List Char → Option (α × List Char)}
    {write : α → List Char} (good : List Char → Prop) (as : List α) (rest : List Char)
    (reads : ∀ a ∈ as, ∀ tail, good tail → read (write a ++ tail) = some (a, tail))
    (written : ∀ a ∈ as, write a ≠ [])
    (kept : ∀ a ∈ as, ∀ tail, good tail → good (write a ++ tail))
    (ends : good rest) (stops : read rest = none) :
    good (as.flatMap write ++ rest) ∧ many read (as.flatMap write ++ rest) = (as, rest) := by
  induction as with
  | nil => exact ⟨ends, many_of_none stops⟩
  | cons a as ih =>
    obtain ⟨goodTail, readTail⟩ := ih (fun b mem => reads b (by simp [mem]))
      (fun b mem => written b (by simp [mem])) (fun b mem => kept b (by simp [mem]))
    have readHead := reads a (by simp) _ goodTail
    have nonempty := List.length_pos_iff.mpr (written a (by simp))
    rw [List.flatMap_cons, List.append_assoc]
    refine ⟨kept a (by simp) _ goodTail, ?_⟩
    have shorter : (as.flatMap write ++ rest).length <
        (write a ++ (as.flatMap write ++ rest)).length := by
      simp only [List.length_append]
      omega
    rw [many_of_some readHead shorter, readTail]

/-! ## Runs of characters -/

/-- The head of the text, if there is any, is not in the class. -/
def StopsAt (p : Char → Bool) (cs : List Char) : Prop :=
  ∀ c ∈ cs.head?, p c = false

@[simp] theorem stopsAt_cons (p : Char → Bool) (c : Char) (cs : List Char) :
    StopsAt p (c :: cs) ↔ p c = false := by
  simp [StopsAt]

theorem takeWhile_run {p : Char → Bool} {run rest : List Char} (all : ∀ c ∈ run, p c = true)
    (stops : StopsAt p rest) : (run ++ rest).takeWhile p = run := by
  rw [List.takeWhile_append_of_pos all]
  cases rest with
  | nil => simp
  | cons c cs => simp [(stopsAt_cons p c cs).mp stops]

theorem dropWhile_run {p : Char → Bool} {run rest : List Char} (all : ∀ c ∈ run, p c = true)
    (stops : StopsAt p rest) : (run ++ rest).dropWhile p = rest := by
  rw [List.dropWhile_append_of_pos all]
  cases rest with
  | nil => rfl
  | cons c cs => simp [(stopsAt_cons p c cs).mp stops]

/-! ## Attributes and tags -/

def scanAttribute (cs : List Char) : Option (RawAttribute × List Char) :=
  let afterBlank := cs.dropWhile isSpace
  match afterBlank.dropWhile isNameChar with
  | '=' :: '"' :: rest =>
    match rest.dropWhile (· != '"') with
    | _ :: tail =>
      some (⟨cs.takeWhile isSpace, afterBlank.takeWhile isNameChar, rest.takeWhile (· != '"')⟩,
        tail)
    | [] => none
  | _ => none

/-- The text of a comment, and the text after its end. -/
def scanComment : List Char → Option (List Char × List Char)
  | '-' :: '-' :: '>' :: rest => some ([], rest)
  | c :: rest => (scanComment rest).map fun (text, tail) => (c :: text, tail)
  | [] => none

/-- A start tag or an empty tag behind its first character, and the text after it. -/
def scanTag (cs : List Char) : Option (Markup × List Char) :=
  let name := cs.takeWhile isNameChar
  let (attributes, rest) := many scanAttribute (cs.dropWhile isNameChar)
  let blank := rest.takeWhile isSpace
  match rest.dropWhile isSpace with
  | '>' :: tail => some (.startTag name attributes blank, tail)
  | '/' :: '>' :: tail => some (.emptyTag name attributes blank, tail)
  | _ => none

/-- An end tag behind its first two characters, and the text after it. -/
def scanEndTag (cs : List Char) : Option (Markup × List Char) :=
  let rest := cs.dropWhile isNameChar
  match rest.dropWhile isSpace with
  | '>' :: tail => some (.endTag (cs.takeWhile isNameChar) (rest.takeWhile isSpace), tail)
  | _ => none

def scanMarkup : List Char → Option (Markup × List Char)
  | '<' :: '!' :: '-' :: '-' :: rest =>
    (scanComment rest).map fun (text, tail) => (.comment text, tail)
  | '<' :: '/' :: rest => scanEndTag rest
  | '<' :: rest => scanTag rest
  | _ => none

def scanItem (cs : List Char) : Option (Item × List Char) :=
  (scanMarkup cs).map fun (markup, rest) =>
    (⟨markup, rest.takeWhile (· != '<')⟩, rest.dropWhile (· != '<'))

/-- The items of a text, if it is nothing else. -/
def scanItems (cs : List Char) : Option (List Item) :=
  match many scanItem cs with
  | (items, []) => some items
  | _ => none

/-! ## What can be scanned -/

structure RawAttribute.Readable (a : RawAttribute) : Prop where
  blank : ∀ c ∈ a.blank, isSpace c
  name : isName a.name
  value : '"' ∉ a.value

def Markup.Readable : Markup → Prop
  | .comment text => HyphensApart (text ++ ['-'])
  | .startTag name attributes blank | .emptyTag name attributes blank =>
    isName name ∧ (∀ a ∈ attributes, a.Readable ∧ a.blank ≠ []) ∧ ∀ c ∈ blank, isSpace c
  | .endTag name blank => isName name ∧ ∀ c ∈ blank, isSpace c

structure Item.Readable (i : Item) : Prop where
  markup : i.markup.Readable
  after : '<' ∉ i.after

variable {rules : Rules}

theorem RawAttribute.Legal.readable {a : RawAttribute} (legal : a.Legal rules) : a.Readable :=
  ⟨legal.blank, legal.name, legal.value.2.1⟩

theorem Markup.Legal.readable {m : Markup} (legal : m.Legal rules) : m.Readable := by
  cases m with
  | comment text => exact legal.1
  | startTag name attributes blank | emptyTag name attributes blank =>
    obtain ⟨named, attributesLegal, blanks⟩ := legal
    exact ⟨named, fun a mem => ⟨(attributesLegal.each a mem).readable,
      (attributesLegal.each a mem).separated⟩, blanks⟩
  | endTag name blank => exact legal

theorem Item.Legal.readable {i : Item} (legal : i.Legal rules) : i.Readable :=
  ⟨legal.markup.readable, legal.after.1⟩

/-! ## Scanning what was written -/

theorem isSpace_not_nameChar {c : Char} (space : isSpace c = true) : isNameChar c = false := by
  simp only [isSpace, Bool.or_eq_true, beq_iff_eq] at space
  rcases space with ((rfl | rfl) | rfl) | rfl <;> decide

theorem isNameChar_not_space {c : Char} (named : isNameChar c = true) : isSpace c = false := by
  cases space : isSpace c with
  | false => rfl
  | true => rw [isSpace_not_nameChar space] at named; cases named

/-- A name is a run of name characters that is not empty. -/
theorem name_run {name : List Char} (named : isName name = true) :
    name ≠ [] ∧ ∀ c ∈ name, isNameChar c = true := by
  cases name with
  | nil => cases named
  | cons c rest =>
    simp only [isName, Bool.and_eq_true, List.all_eq_true] at named
    refine ⟨by simp, fun d mem => ?_⟩
    rcases List.mem_cons.mp mem with rfl | inRest
    · simp [isNameChar, named.1]
    · exact named.2 d inRest

/-- Behind a name comes no space yet, since its first character is none. -/
theorem stopsAt_space_of_name {name : List Char} (named : isName name = true) (rest : List Char) :
    StopsAt isSpace (name ++ rest) := by
  obtain ⟨nonempty, all⟩ := name_run named
  cases name with
  | nil => exact absurd rfl nonempty
  | cons c cs => simp [isNameChar_not_space (all c (by simp))]

/-- An attribute that can be read is scanned as it was written, whatever follows. -/
theorem scanAttribute_write (a : RawAttribute) (readable : a.Readable) (rest : List Char) :
    scanAttribute (a.write ++ rest) = some (a, rest) := by
  obtain ⟨nonempty, named⟩ := name_run readable.name
  have behindName : StopsAt isNameChar ('=' :: '"' :: (a.value ++ '"' :: rest)) := by
    simp; decide
  have inQuotes : ∀ c ∈ a.value, (c != '"') = true := by
    intro c mem
    have different : c ≠ '"' := fun same => readable.value (same ▸ mem)
    simpa using different
  have behindValue : StopsAt (· != '"') ('"' :: rest) := by simp
  have split : a.write ++ rest =
      a.blank ++ (a.name ++ '=' :: '"' :: (a.value ++ '"' :: rest)) := by
    simp [RawAttribute.write]
  have behindBlank := stopsAt_space_of_name readable.name ('=' :: '"' :: (a.value ++ '"' :: rest))
  rw [split, scanAttribute]
  simp only [dropWhile_run readable.blank behindBlank, takeWhile_run readable.blank behindBlank,
    dropWhile_run named behindName, takeWhile_run named behindName,
    dropWhile_run inQuotes behindValue, takeWhile_run inQuotes behindValue]

/-- The end of a tag is no attribute. -/
theorem scanAttribute_tagEnd {blank rest : List Char} {c : Char} (blanks : ∀ d ∈ blank, isSpace d)
    (ends : c = '>' ∨ c = '/') : scanAttribute (blank ++ c :: rest) = none := by
  have behindBlank : StopsAt isSpace (c :: rest) := by
    rcases ends with rfl | rfl <;> simp <;> decide
  have noName : isNameChar c = false := by
    rcases ends with rfl | rfl <;> decide
  rw [scanAttribute]
  simp only [dropWhile_run blanks behindBlank, List.dropWhile_cons, noName]
  rcases ends with rfl | rfl <;> rfl

/-- All attributes of a tag are read, and nothing of its end. -/
theorem many_scanAttribute {attributes : List RawAttribute} {blank rest : List Char} {c : Char}
    (readable : ∀ a ∈ attributes, a.Readable ∧ a.blank ≠ []) (blanks : ∀ d ∈ blank, isSpace d)
    (ends : c = '>' ∨ c = '/') :
    many scanAttribute (attributes.flatMap RawAttribute.write ++ (blank ++ c :: rest)) =
      (attributes, blank ++ c :: rest) := by
  have each : ∀ a ∈ attributes, ∀ tail, True →
      scanAttribute (a.write ++ tail) = some (a, tail) :=
    fun a mem tail _ => scanAttribute_write a (readable a mem).1 tail
  have written : ∀ a ∈ attributes, a.write ≠ [] := by
    intro a _
    simp [RawAttribute.write]
  exact (many_flatMap (fun _ => True) attributes _ each written (fun _ _ _ _ => trivial) trivial
    (scanAttribute_tagEnd blanks ends)).2

/-- Behind the attributes of a tag, or without any, its name has ended. -/
theorem stopsAt_name_attributes {attributes : List RawAttribute} {blank : List Char} {c : Char}
    (readable : ∀ a ∈ attributes, a.Readable ∧ a.blank ≠ []) (blanks : ∀ d ∈ blank, isSpace d)
    (ends : c = '>' ∨ c = '/') (rest : List Char) :
    StopsAt isNameChar (attributes.flatMap RawAttribute.write ++ (blank ++ c :: rest)) := by
  cases attributes with
  | nil =>
    cases blank with
    | nil => rcases ends with rfl | rfl <;> simp <;> decide
    | cons d ds => simpa using isSpace_not_nameChar (blanks d (by simp))
  | cons a as =>
    obtain ⟨aReadable, separated⟩ := readable a (by simp)
    obtain ⟨d, ds, split⟩ := List.exists_cons_of_ne_nil separated
    have space := aReadable.blank d (by simp [split])
    simpa [RawAttribute.write, split] using isSpace_not_nameChar space

theorem scanTag_start {name blank : List Char} {attributes : List RawAttribute}
    (readable : (Markup.startTag name attributes blank).Readable) (rest : List Char) :
    scanTag (name ++ (attributes.flatMap RawAttribute.write ++ (blank ++ '>' :: rest))) =
      some (.startTag name attributes blank, rest) := by
  obtain ⟨named, each, blanks⟩ := readable
  have inName := (name_run named).2
  have behindName := stopsAt_name_attributes each blanks (.inl rfl) rest
  have behindBlank : StopsAt isSpace ('>' :: rest) := by simp; decide
  rw [scanTag]
  simp only [takeWhile_run inName behindName, dropWhile_run inName behindName,
    many_scanAttribute each blanks (.inl rfl), takeWhile_run blanks behindBlank,
    dropWhile_run blanks behindBlank]

theorem scanTag_empty {name blank : List Char} {attributes : List RawAttribute}
    (readable : (Markup.emptyTag name attributes blank).Readable) (rest : List Char) :
    scanTag (name ++ (attributes.flatMap RawAttribute.write ++ (blank ++ '/' :: '>' :: rest))) =
      some (.emptyTag name attributes blank, rest) := by
  obtain ⟨named, each, blanks⟩ := readable
  have inName := (name_run named).2
  have behindName := stopsAt_name_attributes each blanks (.inr rfl) ('>' :: rest)
  have behindBlank : StopsAt isSpace ('/' :: '>' :: rest) := by simp; decide
  rw [scanTag]
  simp only [takeWhile_run inName behindName, dropWhile_run inName behindName,
    many_scanAttribute each blanks (.inr rfl), takeWhile_run blanks behindBlank,
    dropWhile_run blanks behindBlank]

theorem scanEndTag_write {name blank : List Char}
    (readable : (Markup.endTag name blank).Readable) (rest : List Char) :
    scanEndTag (name ++ (blank ++ '>' :: rest)) = some (.endTag name blank, rest) := by
  obtain ⟨named, blanks⟩ := readable
  have inName := (name_run named).2
  have noAttributes : ∀ a ∈ ([] : List RawAttribute), a.Readable ∧ a.blank ≠ [] :=
    List.forall_mem_nil _
  have behindName : StopsAt isNameChar (blank ++ '>' :: rest) :=
    stopsAt_name_attributes noAttributes blanks (.inl rfl) rest
  have behindBlank : StopsAt isSpace ('>' :: rest) := by simp; decide
  rw [scanEndTag]
  simp only [takeWhile_run inName behindName, dropWhile_run inName behindName,
    takeWhile_run blanks behindBlank, dropWhile_run blanks behindBlank]

/-- The first end of a comment is the one that was written: two hyphens in a row, or one before the
end, would be in the text. -/
theorem scanComment_write (text rest : List Char) (apart : HyphensApart (text ++ ['-'])) :
    scanComment (text ++ '-' :: '-' :: '>' :: rest) = some (text, rest) := by
  induction text with
  | nil => rfl
  | cons c text ih =>
    have goesOn := ih (List.isChain_of_isChain_cons apart)
    rw [List.cons_append, scanComment, goesOn]
    · rfl
    · intro tail hyphen same
      cases text with
      | nil => exact (List.isChain_cons_cons.mp apart).1 hyphen rfl
      | cons d ds =>
        rw [List.cons_append, List.cons.injEq] at same
        exact (List.isChain_cons_cons.mp apart).1 hyphen same.1

/-- A name does not begin like a comment or an end tag. -/
theorem scanMarkup_name {name : List Char} (named : isName name = true) (rest : List Char) :
    scanMarkup ('<' :: (name ++ rest)) = scanTag (name ++ rest) := by
  obtain ⟨nonempty, all⟩ := name_run named
  cases name with
  | nil => exact absurd rfl nonempty
  | cons c cs =>
    have isNamed : isNameChar c = true := all c (by simp)
    have noBang : c ≠ '!' := by rintro rfl; revert isNamed; decide
    have noSlash : c ≠ '/' := by rintro rfl; revert isNamed; decide
    rw [List.cons_append, scanMarkup]
    · intro tail same
      exact noBang (List.cons.inj same).1
    · intro tail same
      exact noSlash (List.cons.inj same).1

/-- Markup that can be read is scanned as it was written, whatever follows. -/
theorem scanMarkup_write (m : Markup) (readable : m.Readable) (rest : List Char) :
    scanMarkup (m.write ++ rest) = some (m, rest) := by
  cases m with
  | comment text =>
    have split : (Markup.comment text).write ++ rest =
        '<' :: '!' :: '-' :: '-' :: (text ++ '-' :: '-' :: '>' :: rest) := by
      simp [Markup.write]
    rw [split, scanMarkup, scanComment_write text rest readable]
    rfl
  | startTag name attributes blank =>
    have split : (Markup.startTag name attributes blank).write ++ rest =
        '<' :: (name ++ (attributes.flatMap RawAttribute.write ++ (blank ++ '>' :: rest))) := by
      simp [Markup.write]
    rw [split, scanMarkup_name readable.1, scanTag_start readable]
  | emptyTag name attributes blank =>
    have split : (Markup.emptyTag name attributes blank).write ++ rest =
        '<' :: (name ++
          (attributes.flatMap RawAttribute.write ++ (blank ++ '/' :: '>' :: rest))) := by
      simp [Markup.write]
    rw [split, scanMarkup_name readable.1, scanTag_empty readable]
  | endTag name blank =>
    have split : (Markup.endTag name blank).write ++ rest =
        '<' :: '/' :: (name ++ (blank ++ '>' :: rest)) := by
      simp [Markup.write]
    rw [split, scanMarkup, scanEndTag_write readable]

/-- All markup starts with an opening bracket, at which the text ahead of it ends. -/
theorem Markup.exists_write (m : Markup) : ∃ cs, m.write = '<' :: cs := by
  cases m <;> simp [Markup.write]

/-- An item is scanned as it was written, if the text behind it starts with markup or ends. -/
theorem scanItem_write (i : Item) (readable : i.Readable) (rest : List Char)
    (stops : StopsAt (· != '<') rest) : scanItem (i.write ++ rest) = some (i, rest) := by
  have inData : ∀ c ∈ i.after, (c != '<') = true := by
    intro c mem
    have different : c ≠ '<' := fun same => readable.after (same ▸ mem)
    simpa using different
  rw [Item.write, List.append_assoc, scanItem, scanMarkup_write i.markup readable.markup]
  simp only [Option.map_some, takeWhile_run inData stops, dropWhile_run inData stops]

/-- A text is scanned into the items it was written from. -/
theorem scanItems_write (items : List Item) (readable : ∀ i ∈ items, i.Readable) :
    scanItems (writeItems items) = some items := by
  have starts : ∀ i ∈ items, ∀ tail, StopsAt (· != '<') tail →
      StopsAt (· != '<') (i.write ++ tail) := by
    intro i _ tail _
    obtain ⟨cs, split⟩ := i.markup.exists_write
    simp [Item.write, split]
  have written : ∀ i ∈ items, i.write ≠ [] := by
    intro i _
    obtain ⟨cs, split⟩ := i.markup.exists_write
    simp [Item.write, split]
  have reads := (many_flatMap (StopsAt (· != '<')) items []
    (fun i mem tail stops => scanItem_write i (readable i mem) tail stops) written starts
    (by simp [StopsAt]) rfl).2
  rw [List.append_nil] at reads
  rw [scanItems, writeItems, reads]

/-- Items that can be scanned are determined by their written form. -/
theorem writeItems_injective {items others : List Item} (readable : ∀ i ∈ items, i.Readable)
    (othersReadable : ∀ i ∈ others, i.Readable) (same : writeItems items = writeItems others) :
    items = others := by
  have scanned := scanItems_write items readable
  rw [same, scanItems_write others othersReadable] at scanned
  exact (Option.some.inj scanned).symm

end GridBeans.Xml
