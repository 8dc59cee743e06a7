import GridBeans.Proofs.Generation.Failing
import GridBeans.Proofs.Generation.ProperNode
import GridBeans.Proofs.Markup.Legal

/-!
# Documents as markup

A generated document is a declaration, the header comment and the root element around the pieces
that the scripts wrote. The tree of a document is built from those pieces, whose texts are still the
ones of the description.
-/
namespace GridBeans.Generation

open GridBeans.Xml GridBeans.Markup GridBeans.Config

/-! ## The head -/

/-- Where the schemas of the namespaces are found: pairs of a namespace and an address. -/
def schemaLocations : String :=
  beansNamespace ++ "\n" ++
    "                           " ++ beansNamespace ++ "/spring-beans.xsd\n" ++
    "                           " ++ utilNamespace ++ "\n" ++
    "                           " ++ utilNamespace ++ "/spring-util.xsd"

def rootAttributes : List Attribute :=
  [writtenAttr "xmlns" beansNamespace, writtenAttr "xmlns:xsi" instanceNamespace,
    writtenAttr "xmlns:util" utilNamespace, writtenAttr "xsi:schemaLocation" schemaLocations]

/-- The line end and the indentation before every attribute of the root element but the first. -/
def rootLineStart : List Char := '\n' :: "       ".toList

/-- Attributes of the root element as they stand in its tag, given their values. -/
def rootRawAttributes (beans instances util locations : String) : List RawAttribute :=
  [⟨[' '], "xmlns".toList, beans.toList⟩,
    ⟨rootLineStart, "xmlns:xsi".toList, instances.toList⟩,
    ⟨rootLineStart, "xmlns:util".toList, util.toList⟩,
    ⟨rootLineStart, "xsi:schemaLocation".toList, locations.toList⟩]

def rootTag : Xml.Markup :=
  .startTag "beans".toList
    (rootRawAttributes beansNamespace instanceNamespace utilNamespace schemaLocations) []

def declaration : Declaration := ⟨"UTF-8".toList, []⟩

theorem declaration_legal : declaration.Legal := by
  refine ⟨?_, List.forall_mem_nil _⟩
  have named : isEncodingName "UTF-8".toList = true := by decide
  exact named

def headerItem (options : DocumentOptions) : Item :=
  ⟨.comment (' ' :: (spaceHyphens false options.headerComment.toList ++ [' '])), ['\n']⟩

theorem declaration_write :
    "<?xml version=\"1.0\" encoding=\"UTF-8\"?>\n\n".toList =
      declaration.write ++ ['\n', '\n'] := by
  decide +kernel

/-- The header comment of a document is written with its hyphens apart, as the tree has it. -/
theorem header_write (options : DocumentOptions) :
    ((Piece.comment (commentText options.headerComment)).render ++ "\n").toList =
      (headerItem options).write := by
  simp [Piece.render, commentText, headerItem, Item.write, Xml.Markup.write]

/-- The values are variables here, so that no step decodes the names of the namespaces. -/
theorem root_write (beans instances util locations : String) :
    ("<beans xmlns=\"" ++ beans ++ "\"\n" ++
      "       xmlns:xsi=\"" ++ instances ++ "\"\n" ++
      "       xmlns:util=\"" ++ util ++ "\"\n" ++
      "       xsi:schemaLocation=\"" ++ locations ++ "\">\n").toList =
    (Xml.Markup.startTag "beans".toList (rootRawAttributes beans instances util locations)
      []).write ++ ['\n'] := by
  have start : "<beans xmlns=\"".toList =
      '<' :: ("beans".toList ++ ' ' :: ("xmlns".toList ++ ['=', '"'])) := by simp
  have second : "       xmlns:xsi=\"".toList =
      "       ".toList ++ ("xmlns:xsi".toList ++ ['=', '"']) := by simp
  have third : "       xmlns:util=\"".toList =
      "       ".toList ++ ("xmlns:util".toList ++ ['=', '"']) := by simp
  have fourth : "       xsi:schemaLocation=\"".toList =
      "       ".toList ++ ("xsi:schemaLocation".toList ++ ['=', '"']) := by simp
  have newLine : "\"\n".toList = ['"', '\n'] := by simp
  have close : "\">\n".toList = ['"', '>', '\n'] := by simp
  rw [rootRawAttributes, rootLineStart]
  simp only [String.toList_append, start, second, third, fourth, newLine, close,
    Xml.Markup.write, List.flatMap_cons, List.flatMap_nil, RawAttribute.write,
    List.cons_append, List.nil_append, List.append_assoc, List.append_nil]

/-- The head of a document in parts: the declaration, a blank line, the header comment and the root
tag. -/
theorem documentHead_toList (options : DocumentOptions) :
    (documentHead options).toList = declaration.write ++
      (['\n', '\n'] ++ ((headerItem options).write ++ (rootTag.write ++ ['\n']))) := by
  have ends : "/spring-util.xsd\">\n".toList = "/spring-util.xsd".toList ++ "\">\n".toList := by
    simp
  have split : (documentHead options).toList =
      "<?xml version=\"1.0\" encoding=\"UTF-8\"?>\n\n".toList ++
        (((Piece.comment (commentText options.headerComment)).render ++ "\n").toList ++
          ("<beans xmlns=\"" ++ beansNamespace ++ "\"\n" ++
            "       xmlns:xsi=\"" ++ instanceNamespace ++ "\"\n" ++
            "       xmlns:util=\"" ++ utilNamespace ++ "\"\n" ++
            "       xsi:schemaLocation=\"" ++ schemaLocations ++ "\">\n").toList) := by
    unfold documentHead schemaLocations
    generalize beansNamespace = beans, instanceNamespace = instances, utilNamespace = util
    simp only [String.toList_append, ends, List.append_assoc]
  rw [split, declaration_write, header_write, root_write, List.append_assoc]
  rfl

theorem schemaLocations_plain : Plain schemaLocations := by
  have beans : Plain beansNamespace := plain_literal rfl
  have util : Plain utilNamespace := plain_literal rfl
  unfold schemaLocations
  simp only [plain_append, beans, util, and_true, true_and]
  repeat' apply And.intro
  all_goals exact plain_literal rfl

variable {rules : Rules}

theorem isLegalValue_of_plain {text : String} (plain : Plain text) :
    isLegalValue rules text.toList :=
  (AttributeValue.Proper.isLegalValue_iff (P := (isLegalChar · = true)) (fun _ legal => legal)
    (v := .written text) plain).mpr fun _ mem => (isPlainChar_cases (plain _ mem)).2.2.1 rfl

theorem rootRawAttributes_legal {beans instances util locations : String}
    (beansLegal : isLegalValue rules beans.toList)
    (instancesLegal : isLegalValue rules instances.toList)
    (utilLegal : isLegalValue rules util.toList)
    (locationsLegal : isLegalValue rules locations.toList) :
    LegalAttributes rules (rootRawAttributes beans instances util locations) := by
  have space : [' '] ≠ [] ∧ ∀ c ∈ [' '], isSpace c = true := by simp [isSpace]
  have lineStart : rootLineStart ≠ [] ∧ ∀ c ∈ rootLineStart, isSpace c = true := by
    simp [rootLineStart, isSpace]
  constructor
  · simp only [rootRawAttributes, List.forall_mem_cons]
    exact ⟨⟨space.1, space.2, isName_literal (by decide), beansLegal⟩,
      ⟨lineStart.1, lineStart.2, isName_literal (by decide), instancesLegal⟩,
      ⟨lineStart.1, lineStart.2, isName_literal (by decide), utilLegal⟩,
      ⟨lineStart.1, lineStart.2, isName_literal (by decide), locationsLegal⟩,
      List.forall_mem_nil _⟩
  · simp [rootRawAttributes]

/-- The root tag is legal under every set of rules, since its attributes are fixed and plain. -/
theorem rootTag_legal : rootTag.Legal rules :=
  ⟨isName_literal (by decide),
    rootRawAttributes_legal (isLegalValue_of_plain (plain_literal rfl))
      (isLegalValue_of_plain (plain_literal rfl)) (isLegalValue_of_plain (plain_literal rfl))
      (isLegalValue_of_plain schemaLocations_plain),
    List.forall_mem_nil _⟩

/-- The attributes of the root element are read as they were stated. -/
theorem rootRawAttributes_decoded :
    (rootRawAttributes beansNamespace instanceNamespace utilNamespace schemaLocations).map
      RawAttribute.decoded = rootAttributes.map Attribute.stated := by
  have decoded : ∀ text : String, Plain text → String.ofList (decode text.toList) = text := by
    intro text plain
    rw [decode_of_plain plain, String.ofList_toList]
  have beans : Plain beansNamespace := plain_literal rfl
  have instances : Plain instanceNamespace := plain_literal rfl
  have util : Plain utilNamespace := plain_literal rfl
  simp only [rootRawAttributes, rootAttributes, List.map_cons, List.map_nil,
    RawAttribute.decoded, decoded _ beans, decoded _ instances, decoded _ util,
    decoded _ schemaLocations_plain, String.ofList_toList]
  rfl

/-! ## Trees -/

def documentPieces (c : ClusterConfig) (clientNear : Option NearCacheConfig)
    (options : DocumentOptions) : List Piece :=
  let body := nodeBeans c clientNear
  (preamble options body.registered).pieces ++ body.pieces

/-- The tree of the document of a cluster. -/
def clusterTree (c : ClusterConfig) (clientNear : Option NearCacheConfig)
    (options : DocumentOptions) : Node :=
  .element "beans" (rootAttributes.map Attribute.stated)
    (forest (documentPieces c clientNear options))

/-- The tree of the bean of a cache. -/
def cacheTree (c : CacheConfig) : Node :=
  .element "bean" [("class", cacheClass)] (forest (cacheProperties c).pieces)

/-! ## The pieces of a document -/

variable {P : Char → Prop}

theorem mem_of_mem_registerAll {s : DataSource} {sources : List DataSource} {r : Registry}
    (mem : s ∈ (r.registerAll sources).sources) : s ∈ r.sources ∨ s ∈ sources := by
  induction sources generalizing r with
  | nil => exact .inl mem
  | cons first rest ih =>
    rcases ih mem with before | later
    · rw [Registry.register] at before
      split at before
      · exact .inl before
      · rcases List.mem_append.mp before with old | new
        · exact .inl old
        · exact .inr (List.mem_singleton.mp new ▸ List.mem_cons_self)
    · exact .inr (List.mem_cons_of_mem first later)

/-- What the registry has after a script is among what the script registers. -/
theorem mem_sources_of_mem_registered {x : Script Unit} {s : DataSource} (mem : s ∈ x.registered) :
    s ∈ x.sources := by
  rcases mem_of_mem_registerAll mem with inEmpty | inSources
  · cases inEmpty
  · exact inSources

/-- The description of a document: a cluster, the near cache of a client, and options. -/
structure DocumentSpelled (P : Char → Prop) (c : ClusterConfig)
    (clientNear : Option NearCacheConfig) (options : DocumentOptions) : Prop where
  cluster : Spelled P c
  near : Spelled P clientNear
  options : Spelled P options

/-- Every piece inside the root is proper over a class of characters over which the texts are
spelled. -/
theorem documentPieces_proper [AdmitsPlain P] {c : ClusterConfig}
    {clientNear : Option NearCacheConfig} {options : DocumentOptions}
    (spelled : DocumentSpelled P c clientNear options) :
    ∀ p ∈ documentPieces c clientNear options, p.Proper P := by
  have body := nodeBeans_proper spelled.cluster spelled.near
  have location : Over P options.propertiesLocation :=
    spelled.options _ (by simp [HasTexts.texts])
  have ahead : (preamble options (nodeBeans c clientNear).registered).Proper P :=
    preamble_proper location fun s mem => body.sources s (mem_sources_of_mem_registered mem)
  exact List.forall_mem_append.mpr ⟨ahead.pieces, body.pieces⟩

/-- If the node succeeds, the pieces inside the root open and close elements in pairs. -/
theorem documentPieces_whole {c : ClusterConfig} {clientNear : Option NearCacheConfig}
    {options : DocumentOptions} {u : Unit} (succeeds : (nodeBeans c clientNear).outcome = .ok u) :
    Whole (documentPieces c clientNear options) := by
  have body : (nodeBeans c clientNear).Proper fun _ => True :=
    nodeBeans_proper (spelled_everything c) (spelled_everything clientNear)
  have ahead : (preamble options (nodeBeans c clientNear).registered).Proper fun _ => True :=
    preamble_proper (fun _ _ => trivial) fun s mem =>
      body.sources s (mem_sources_of_mem_registered mem)
  obtain ⟨u, aheadSucceeds⟩ := (Script.exists_outcome_ok_iff _).mpr
    (failure?_preamble options (nodeBeans c clientNear).registered)
  exact .append (ahead.whole u aheadSucceeds) (body.whole _ succeeds)

/-! ## The text of a document -/

/-- A document around placed pieces. -/
def documentAround (options : DocumentOptions) (lead : List Char) (inside : List Placed)
    (lastAfter : List Char) : Xml.Document where
  declaration := declaration
  lead := ['\n', '\n']
  before := [headerItem options]
  root := ⟨rootTag, '\n' :: lead⟩ ::
    (placedItems inside ++ [⟨.endTag "beans".toList [], lastAfter⟩])
  after := []

/-- The pieces of a document among blanks. -/
structure Arranged (pieces : List Piece) (lead : List Char) (inside : List Placed)
    (lastAfter : List Char) : Prop where
  pieces : inside.map Prod.fst = pieces
  lead : ∀ c ∈ lead, isSpace c = true
  inside : ∀ q ∈ inside, ∀ c ∈ q.2, isSpace c = true
  lastAfter : ∀ c ∈ lastAfter, isSpace c = true

/-- A generated document consists of its head, the preamble, the beans of the node and the closing
tag. -/
theorem clusterDocument_outcome {c : ClusterConfig} {clientNear : Option NearCacheConfig}
    {options : DocumentOptions} {text : String}
    (generated : clusterDocument c clientNear options = .ok text) :
    (nodeBeans c clientNear).outcome = .ok () ∧
      text = documentHead options ++
        (preamble options (nodeBeans c clientNear).registered).text documentDepth ++
        (nodeBeans c clientNear).text documentDepth ++ "</beans>\n" := by
  cases result : (nodeBeans c clientNear).outcome with
  | error e =>
    simp only [clusterDocument, result] at generated
    cases generated
  | ok u =>
    simp only [clusterDocument, result] at generated
    exact ⟨rfl, (Except.ok.inj generated).symm⟩

/-- The lines of a document behind the start tag of its root element. -/
def documentLines (c : ClusterConfig) (clientNear : Option NearCacheConfig)
    (options : DocumentOptions) : List Line :=
  let body := nodeBeans c clientNear
  ((preamble options body.registered).runOn (Sheet.empty documentDepth)).lines ++
    (body.runOn (Sheet.empty documentDepth)).lines ++ [.content 0 (.endTag "beans")]

theorem documentLines_pieces (c : ClusterConfig) (clientNear : Option NearCacheConfig)
    (options : DocumentOptions) :
    (documentLines c clientNear options).filterMap Line.piece? =
      documentPieces c clientNear options ++ [.endTag "beans"] := by
  simp only [documentLines, List.filterMap_append, Script.pieces_runOn]
  rfl

theorem documentLines_proper (c : ClusterConfig) (clientNear : Option NearCacheConfig)
    (options : DocumentOptions) :
    ∀ p ∈ (documentLines c clientNear options).filterMap Line.piece?, p.Proper fun _ => True := by
  have named : isName "beans".toList = true := by decide
  rw [documentLines_pieces]
  exact List.forall_mem_append.mpr ⟨documentPieces_proper ⟨spelled_everything c,
    spelled_everything clientNear, spelled_everything options⟩, List.forall_mem_singleton.mpr named⟩

/-- The characters of a document as head and lines, which is the form in which it is read back. -/
theorem clusterDocument_toList {c : ClusterConfig} {clientNear : Option NearCacheConfig}
    {options : DocumentOptions} {text : String}
    (generated : clusterDocument c clientNear options = .ok text) :
    text.toList = (documentHead options).toList ++
      (renderLines (documentLines c clientNear options)).toList := by
  obtain ⟨-, rfl⟩ := clusterDocument_outcome generated
  simp only [documentLines, renderLines_append, String.toList_append, List.append_assoc]
  rfl

/-- A generated document is written as a document around its pieces. -/
theorem clusterDocument_write {c : ClusterConfig} {clientNear : Option NearCacheConfig}
    {options : DocumentOptions} {text : String}
    (generated : clusterDocument c clientNear options = .ok text) :
    ∃ lead inside lastAfter,
      text.toList = (documentAround options lead inside lastAfter).write ∧
        Arranged (documentPieces c clientNear options) lead inside lastAfter := by
  have placedSame := placed_pieces (documentLines c clientNear options)
  rw [documentLines_pieces] at placedSame
  obtain ⟨inside, last, split, sameInside, sameLast⟩ := List.map_eq_append_iff.mp placedSame
  obtain ⟨lastAfter, rfl⟩ := places_of_piece sameLast
  obtain ⟨lead, behind⟩ := placed_blank (documentLines c clientNear options)
  rw [split] at behind
  refine ⟨(placed (documentLines c clientNear options)).1, inside, lastAfter, ?_, sameInside, lead,
    fun q mem => behind q (List.mem_append_left _ mem),
    behind (.endTag "beans", lastAfter) (by simp)⟩
  rw [clusterDocument_toList generated,
    renderLines_toList _ (documentLines_proper c clientNear options), split, placedItems_append,
    documentHead_toList, Xml.Document.write, Xml.Document.items]
  simp [documentAround, writeItems, Item.write, placedItems, Piece.items]

/-! ## The text of a bean -/

def cachePieces (c : CacheConfig) : List Piece :=
  .startTag "bean" [writtenAttr "class" cacheClass] ::
    ((cacheProperties c).pieces ++ [.endTag "bean"])

/-- A generated fragment is the text of the bean of the cache at depth zero. -/
theorem cacheDocument_outcome {c : CacheConfig} {text : String}
    (generated : cacheDocument c = .ok text) :
    (cacheBean c).outcome = .ok () ∧ text = (cacheBean c).text 0 := by
  cases result : (cacheBean c).outcome with
  | error e =>
    simp only [cacheDocument, result] at generated
    cases generated
  | ok u =>
    simp only [cacheDocument, result] at generated
    exact ⟨rfl, (Except.ok.inj generated).symm⟩

/-- If a cache succeeds, its properties open and close elements in pairs. -/
theorem cacheProperties_whole {c : CacheConfig} (succeeds : (cacheBean c).outcome = .ok ()) :
    Whole (cacheProperties c).pieces := by
  have proper : (cacheProperties c).Proper fun _ => True :=
    cacheProperties_proper (spelled_everything c)
  exact proper.whole () (by rw [← succeeds, cacheBean, beanBlock, Script.outcome_block])

theorem cachePieces_proper [AdmitsPlain P] {c : CacheConfig} (spelled : Spelled P c)
    (succeeds : (cacheBean c).outcome = .ok ()) :
    (cacheBean c).pieces = cachePieces c ∧ ∀ p ∈ cachePieces c, p.Proper P := by
  have inside : (cacheProperties c).outcome = .ok () := by
    rw [← succeeds, cacheBean, beanBlock, Script.outcome_block]
  have same : (cacheBean c).pieces = cachePieces c := by
    rw [cacheBean, beanBlock, Script.pieces_block, inside, cachePieces]
  exact ⟨same, same ▸ (cacheBean_proper spelled).pieces⟩

/-- Nothing stands before the first tag of a block that is written at no depth. -/
theorem placed_block (element : String) (attributes : List Attribute) (body : Script Unit) :
    (placed ((Script.block element attributes body).runOn (Sheet.empty 0)).lines).1 = [] := by
  have marks : ∃ rest, (Script.block element attributes body).marks =
      .opening (.startTag element attributes) :: rest :=
    ⟨_, Script.marks_andThen _ _⟩
  obtain ⟨rest, same⟩ := marks
  rw [Script.runOn, same]
  rfl

/-- The bean of a cache alone is written as its pieces, with blanks between them. -/
theorem cacheDocument_write {c : CacheConfig} {text : String}
    (generated : cacheDocument c = .ok text) :
    ∃ places : List Placed, text.toList = writeItems (placedItems places) ∧
      places.map Prod.fst = cachePieces c ∧ ∀ q ∈ places, ∀ c ∈ q.2, isSpace c = true := by
  obtain ⟨succeeds, rfl⟩ := cacheDocument_outcome generated
  obtain ⟨same, proper⟩ := cachePieces_proper (spelled_everything c) succeeds
  have linePieces := (cacheBean c).pieces_runOn 0
  rw [same] at linePieces
  have written := renderLines_toList ((cacheBean c).runOn (Sheet.empty 0)).lines
    (linePieces ▸ proper)
  refine ⟨(placed ((cacheBean c).runOn (Sheet.empty 0)).lines).2, ?_, ?_, (placed_blank _).2⟩
  · rw [cacheBean, beanBlock, placed_block, List.nil_append] at written
    exact written
  · rw [placed_pieces, linePieces]

end GridBeans.Generation
