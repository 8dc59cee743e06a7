import GridBeans.Proofs.Generation.StoreEffects
import GridBeans.Proofs.Generation.TypeContent
import Mathlib.Data.List.TakeWhile

/-!
# Property bags

The properties of an object mapper are entries with a key and a value around the first equals sign.
Whether the bean has a block is decided by the entries alone, and the rows in the block are written
with two ways of escaping; a reader of the text finds a row for each entry that has an equals sign,
in the same order, and gets the entry back from it.
-/
namespace GridBeans.Generation

open GridBeans.Xml GridBeans.Markup GridBeans.Config GridBeans.Json

/-! ## Entries -/

/-- The entry has an equals sign. -/
def IsPair (entry : String) : Prop :=
  '=' ∈ entry.toList

instance (entry : String) : Decidable (IsPair entry) :=
  inferInstanceAs (Decidable ('=' ∈ entry.toList))

/-- An entry is split at its first equals sign, if it has one. -/
theorem splitEntry?_cases (entry : String) :
    (¬ IsPair entry ∧ splitEntry? entry = none) ∨
      ∃ key value, IsPair entry ∧ splitEntry? entry = some (key, value) ∧
        '=' ∉ key.toList ∧ key ++ "=" ++ value = entry := by
  have both := List.takeWhile_append_dropWhile (p := (· != '=')) (l := entry.toList)
  have front : '=' ∉ entry.toList.takeWhile (· != '=') := fun mem => by
    simpa using List.mem_takeWhile_imp mem
  cases behind : entry.toList.dropWhile (· != '=') with
  | nil =>
    rw [behind, List.append_nil] at both
    rw [both] at front
    refine .inl ⟨front, ?_⟩
    unfold splitEntry?
    simp [behind]
  | cons c value =>
    have stops : c = '=' := by
      have stop := List.head?_dropWhile_not (· != '=') entry.toList
      simpa [behind] using stop
    subst stops
    rw [behind] at both
    refine .inr ⟨String.ofList (entry.toList.takeWhile (· != '=')), String.ofList value, ?_, ?_,
      by simpa using front, ?_⟩
    · rw [IsPair, ← both]
      exact List.mem_append_right _ List.mem_cons_self
    · unfold splitEntry?
      simp [behind]
    · apply String.toList_injective
      simpa using both

/-- What is read of an entry in a row: a key without any equals sign, and a text. -/
def ReadsAs (entry : String) (row : Node) : Prop :=
  ∃ key text, row = .element "prop" [("key", key)] [.text text] ∧ '=' ∉ key.toList ∧
    key ++ "=" ++ text = entry

def bagNode (entry : String × String) : Node :=
  .element "prop" [("key", entry.1)] [.text entry.2]

/-- The rows are those of the entries with an equals sign, one for each and in the same order. -/
theorem bagNodes_read (entries : List String) :
    List.Forall₂ ReadsAs (entries.filter fun entry => IsPair entry)
      ((entries.filterMap splitEntry?).map bagNode) := by
  induction entries with
  | nil => exact .nil
  | cons entry rest ih =>
    rcases splitEntry?_cases entry with ⟨alone, none⟩ | ⟨key, value, pair, split, free, same⟩
    · rw [List.filter_cons_of_neg (by simpa using alone), List.filterMap_cons_none none]
      exact ih
    · rw [List.filter_cons_of_pos (by simpa using pair), List.filterMap_cons_some split]
      exact .cons ⟨key, value, rfl, free, same⟩ ih

/-- The entries give something to write exactly if one of them is a pair. -/
theorem splits_iff (entries : List String) :
    entries.filterMap splitEntry? ≠ [] ↔ ∃ entry ∈ entries, IsPair entry := by
  rw [ne_eq, List.filterMap_eq_nil_iff]
  push Not
  refine exists_congr fun entry => and_congr_right fun _ => ?_
  rcases splitEntry?_cases entry with ⟨alone, none⟩ | ⟨key, value, pair, split, -⟩
  · simp [none, alone]
  · simp [split, pair]

/-! ## The bean -/

/-- The entries of a bag are split one by one. -/
theorem bagEntries_texts (entries : List String) :
    bagEntries (.array (entries.map Value.string)) = entries.filterMap splitEntry? := by
  have texts : itemTexts (.array (entries.map Value.string)) = entries := by
    simp [itemTexts, Function.comp_def]
  rw [bagEntries, texts]

def bagRows (entries : List String) : List Line :=
  pieceLines ((entries.filterMap splitEntry?).map bagLeaf)

/-- The rows of a bag are whole lines, and their nodes are those of the entries that are pairs. -/
theorem bagRows_write (entries : List String) :
    WholeLines (bagRows entries) ∧
      nodesOf (bagRows entries) = (entries.filterMap splitEntry?).map bagNode := by
  have row : ∀ entry, Makes (bagNode entry) (pieceLines [bagLeaf entry]) :=
    fun entry => ⟨Whole.leaf "prop" [attr "key" entry.1] entry.2, rfl⟩
  rw [bagRows, pieceLines_map]
  exact makes_flatMap row _

/-- The only field of the bean counts if an entry is a pair, and its lines are around the rows. -/
theorem bag_field (entries : List String) :
    let members := HasMembers.members (⟨entries⟩ : HibernateBlobStoreFactory)
    let field : FieldShape := ⟨"hibernateProperties", .propertyBag, none⟩
    (field.hasValue members = true ↔ ∃ entry ∈ entries, IsPair entry) ∧
      (field.hasValue members = true → field.lines members =
        propertyAround "hibernateProperties" (elementLines "props" [] (bagRows entries))) := by
  intro members field
  cases entries with
  | nil => exact ⟨by decide, fun counts => absurd counts (by decide)⟩
  | cons first rest =>
    have found : member? field.name members =
        some (.array ((first :: rest).map Value.string)) := rfl
    have counts : field.hasValue members = !((first :: rest).filterMap splitEntry?).isEmpty := by
      rw [FieldShape.hasValue, found, ← bagEntries_texts]
      rfl
    have presence : field.hasValue members = true ↔ (first :: rest).filterMap splitEntry? ≠ [] := by
      rw [counts, Bool.not_eq_true', List.isEmpty_eq_false_iff]
    refine ⟨presence.trans (splits_iff _), fun present => ?_⟩
    have filled : bagRows (first :: rest) ≠ [] := by
      simpa [bagRows, pieceLines] using presence.mp present
    rw [FieldShape.lines, if_pos present, found, Option.toList_some, List.flatMap_singleton]
    show containerLines _ _ (pieceLines ((bagEntries _).map bagLeaf)) = _
    rw [bagEntries_texts, ← bagRows, containerLines, if_neg filled]
    rfl

/-! ## The factory -/

def withBag (f : StoreFactoryConfig) (entries : List String) : StoreFactoryConfig :=
  { f with kind := some StoreKind.hibernateBlob.name, hibernateBlob := some ⟨entries⟩ }

/-- The property of a store with rows in the block of its bean. -/
def bagProperty (rows : List Node) : Node :=
  .element "property" [("name", "cacheStoreFactory")]
    [.element "bean" [("class", BeanShape.hibernateBlobStoreFactory.className)]
      [.element "property" [("name", "hibernateProperties")] [.element "props" [] rows]]]

variable (f : StoreFactoryConfig) (entries : List String)

/-- A factory with a bag succeeds, and its property is all that it leaves. -/
theorem run_bagStore (desk : Desk) :
    (storeFactory (some (withBag f entries))).outcome = .ok true ∧
      desk.run (storeFactory (some (withBag f entries))) =
        desk.withSection (storeLines (some (withBag f entries))) := by
  have named : (withBag f entries).kind = some StoreKind.hibernateBlob.name := rfl
  have parts : storeFactoryOf .hibernateBlob (withBag f entries) =
      storeFactoryBean .hibernateBlob (⟨entries⟩ : HibernateBlobStoreFactory) := rfl
  rw [storeFactory_of_kind named, Desk.run_result, Script.outcome_bind, parts,
    outcome_storeFactoryBean, run_storeFactoryBean desk named rfl]
  exact ⟨rfl, rfl⟩

/-- The lines of a bag with a pair are around the rows; those of one without are a bean without
content. -/
theorem bagStore_lines :
    storeLines (some (withBag f entries)) = propertyAround "cacheStoreFactory"
      (if ∃ entry ∈ entries, IsPair entry then
        beanAround BeanShape.hibernateBlobStoreFactory.className
          (propertyAround "hibernateProperties" (elementLines "props" [] (bagRows entries)))
      else bareBean BeanShape.hibernateBlobStoreFactory.className) := by
  obtain ⟨presence, lines⟩ := bag_field entries
  rw [storeLines_of_kind (k := .hibernateBlob) rfl]
  show shapedLines _ .hibernateBlobStoreFactory
    (HasMembers.members (⟨entries⟩ : HibernateBlobStoreFactory)) true = _
  rw [shapedLines]
  simp only [BeanShape.hibernateBlobStoreFactory, List.any_cons, List.any_nil, Bool.or_false,
    List.flatMap_singleton]
  by_cases paired : ∃ entry ∈ entries, IsPair entry
  · have counts := presence.mpr paired
    rw [if_pos counts, if_pos paired, lines counts]
  · rw [if_neg (paired ∘ presence.mp), if_neg paired, if_pos trivial]

theorem bagStore_proper :
    ∀ p ∈ (storeLines (some (withBag f entries))).filterMap Line.piece?,
      p.Proper fun _ => True := by
  have pieces : (storeFactory (some (withBag f entries))).pieces =
      (storeLines (some (withBag f entries))).filterMap Line.piece? := by
    rw [← Script.pieces_runOn _ 0]
    exact (congrArg (·.sheet.lines.filterMap Line.piece?)
      (run_bagStore f entries (Desk.empty 0)).2).trans (filterMap_piece?_added _ _)
  rw [← pieces]
  exact (storeFactory_proper (spelled_everything (some (withBag f entries)))).pieces

/-- A factory with a bag writes one property on any desk. If an entry is a pair, then the rows that
a reader finds in its block are those of the pairs, one for each and in the same order, and each
row gives its entry back; and if none is, the bean has no content. -/
theorem propertyBag_reads_back (desk : Desk) :
    ∃ lines, (storeFactory (some (withBag f entries))).outcome = .ok true ∧
      desk.run (storeFactory (some (withBag f entries))) = desk.withSection lines ∧
      if ∃ entry ∈ entries, IsPair entry then
        ∃ rows, (∀ depth, readFragment (renderLines (deeper depth lines)) =
            some [bagProperty rows]) ∧
          List.Forall₂ ReadsAs (entries.filter fun entry => IsPair entry) rows
      else lines = propertyAround "cacheStoreFactory"
        (bareBean BeanShape.hibernateBlobStoreFactory.className) := by
  obtain ⟨result, left⟩ := run_bagStore f entries desk
  have lines := bagStore_lines f entries
  refine ⟨storeLines (some (withBag f entries)), result, left, ?_⟩
  split
  · rename_i paired
    rw [if_pos paired] at lines
    obtain ⟨whole, rows⟩ := bagRows_write entries
    have node : Makes (bagProperty ((entries.filterMap splitEntry?).map bagNode))
        (storeLines (some (withBag f entries))) := by
      have block := makes_element "props" [] whole
      have field := makes_element "property" [writtenAttr "name" "hibernateProperties"] block.1
      have bean := makes_element "bean"
        [writtenAttr "class" BeanShape.hibernateBlobStoreFactory.className] field.1
      have property := makes_element "property" [writtenAttr "name" "cacheStoreFactory"] bean.1
      rw [bean.2, field.2, block.2, rows] at property
      rw [lines]
      exact property
    refine ⟨_, fun depth => ?_, bagNodes_read entries⟩
    rw [readFragment_of_pieces (filterMap_piece?_deeper depth _) node.1
      (bagStore_proper f entries), node.2]
  · rename_i none
    rw [lines, if_neg none]

-- Only the first equals sign splits an entry, and an entry without any has no row.
example : splitEntry? "a=b=<c>" = some ("a", "b=<c>") ∧ splitEntry? "abc" = none := by decide

end GridBeans.Generation
