import GridBeans.Proofs.Generation.ReadBack

/-!
# Well-formed documents

Whether a generated text is well-formed comes down to angle brackets in attribute values, which are
not escaped. Everything else that could break the markup is escaped, or set off by a space, or
cannot come from a text, so every generated text keeps the rules that let such brackets pass.
-/
namespace GridBeans.Generation

open GridBeans.Xml GridBeans.Markup GridBeans.Config

variable {rules : Rules}

/-- Every text of the description is made of characters that a document may hold. -/
abbrev LegalTexts (c : ClusterConfig) (clientNear : Option NearCacheConfig)
    (options : DocumentOptions) : Prop :=
  DocumentSpelled (isLegalChar · = true) c clientNear options

theorem headerItem_legal {options : DocumentOptions}
    (legal : ∀ c ∈ options.headerComment.toList, isLegalChar c = true) :
    (headerItem options).Legal rules := by
  refine ⟨⟨hyphensApart_padded (spaceHyphens_apart false _).1, ?_⟩, isLegalData_blank ?_⟩
  · intro c mem
    simp only [List.mem_cons, List.mem_append, List.not_mem_nil, or_false] at mem
    rcases mem with rfl | spaced | rfl
    · decide
    · rcases mem_spaceHyphens spaced with rfl | inText
      · decide
      · exact legal c inText
    · decide
  · intro c mem
    rw [headerItem, List.mem_singleton] at mem
    rw [mem]
    decide

/-- Placed pieces are legal in XML exactly if their attributes hold no angle bracket. -/
theorem placedItems_legal_iff {pieces : List Piece} {places : List Placed}
    (same : places.map Prod.fst = pieces)
    (proper : ∀ p ∈ pieces, p.Proper (isLegalChar · = true))
    (blank : ∀ q ∈ places, ∀ c ∈ q.2, isSpace c = true) :
    (∀ i ∈ placedItems places, i.Legal rules) ↔
      (rules = .xml → ∀ p ∈ pieces, AngleFree p.attributes) := by
  have each : ∀ q ∈ places, (∀ i ∈ q.1.items q.2, i.Legal rules) ↔
      (rules = .xml → AngleFree q.1.attributes) :=
    fun q mem => (proper_of_pieces same proper q mem).items_legal_iff (fun _ legal => legal)
      (blank q mem)
  rw [← same, List.forall_mem_map]
  constructor
  · intro legal isXml q mem
    exact (each q mem).mp (fun i written => legal i (List.mem_flatMap.mpr ⟨q, mem, written⟩)) isXml
  · intro free i mem
    obtain ⟨q, inside, written⟩ := List.mem_flatMap.mp mem
    exact (each q inside).mpr (fun isXml => free isXml q inside) i written

/-- A document around whole pieces is legal, if its items and the characters of its header are. -/
theorem documentAround_legal {options : DocumentOptions} {pieces : List Piece}
    {lead lastAfter : List Char} {inside : List Placed}
    (arranged : Arranged pieces lead inside lastAfter) (whole : Whole pieces)
    (header : ∀ c ∈ options.headerComment.toList, isLegalChar c = true)
    (legal : ∀ i ∈ placedItems inside, i.Legal rules) :
    (documentAround options lead inside lastAfter).Legal rules where
  declaration := declaration_legal
  lead := show ∀ c ∈ ['\n', '\n'], isSpace c = true by simp [isSpace]
  before := by
    have newline : ∀ c ∈ ['\n'], isSpace c = true := by simp [isSpace]
    exact List.forall_mem_singleton.mpr ⟨⟨_, rfl⟩, newline⟩
  root := .element _ _ _ _ _ _ (whole.content inside arranged.pieces) arranged.lastAfter
  after := List.forall_mem_nil _
  items := by
    have start : (⟨rootTag, '\n' :: lead⟩ : Item).Legal rules :=
      ⟨rootTag_legal, isLegalData_blank (List.forall_mem_cons.mpr ⟨by decide, arranged.lead⟩)⟩
    have ending : (⟨.endTag "beans".toList [], lastAfter⟩ : Item).Legal rules :=
      ⟨⟨isName_literal (by decide), List.forall_mem_nil _⟩, isLegalData_blank arranged.lastAfter⟩
    intro i mem
    simp only [documentAround, Document.items, List.mem_append, List.mem_cons, List.not_mem_nil,
      or_false] at mem
    rcases mem with rfl | rfl | written | rfl
    · exact headerItem_legal header
    · exact start
    · exact legal i written
    · exact ending

/-- The attributes of the root element hold no angle bracket. -/
theorem clusterTree_angleFree_iff {c : ClusterConfig} {clientNear : Option NearCacheConfig}
    {options : DocumentOptions} (whole : Whole (documentPieces c clientNear options)) :
    (∀ p ∈ documentPieces c clientNear options, AngleFree p.attributes) ↔
      ∀ value ∈ (clusterTree c clientNear options).attributeValues, '<' ∉ value.toList := by
  have root : ∀ value ∈ (rootAttributes.map Attribute.stated).map Prod.snd,
      '<' ∉ value.toList := by
    have plain : ∀ text : String, Plain text → '<' ∉ text.toList :=
      fun text plain mem => (isPlainChar_cases (plain _ mem)).2.2.1 rfl
    simp only [rootAttributes, List.map_cons, List.map_nil, List.forall_mem_cons]
    exact ⟨plain beansNamespace (plain_literal rfl), plain instanceNamespace (plain_literal rfl),
      plain utilNamespace (plain_literal rfl), plain schemaLocations schemaLocations_plain,
      List.forall_mem_nil _⟩
  rw [whole.angleFree_iff, clusterTree, Node.attributeValues, List.forall_mem_append]
  exact ⟨fun free => ⟨root, free⟩, fun free => free.2⟩

/-- A generated document keeps a set of rules exactly if these allow raw brackets, or no attribute
value has one. -/
theorem clusterDocument_isDocument_iff (rules : Rules) {c : ClusterConfig}
    {clientNear : Option NearCacheConfig} {options : DocumentOptions} {text : String}
    (legal : LegalTexts c clientNear options)
    (generated : clusterDocument c clientNear options = .ok text) :
    IsDocument rules text ↔ (rules = .xml →
      ∀ value ∈ (clusterTree c clientNear options).attributeValues, '<' ∉ value.toList) := by
  obtain ⟨succeeds, -⟩ := clusterDocument_outcome generated
  obtain ⟨lead, inside, lastAfter, written, arranged⟩ := clusterDocument_write generated
  have whole : Whole (documentPieces c clientNear options) := documentPieces_whole succeeds
  have proper := documentPieces_proper legal
  have header : ∀ c ∈ options.headerComment.toList, isLegalChar c = true :=
    legal.options options.headerComment (by simp [HasTexts.texts])
  rw [← clusterTree_angleFree_iff whole,
    ← placedItems_legal_iff arranged.pieces proper arranged.inside]
  constructor
  · rintro ⟨d, legalDocument, same⟩
    have blank : ∀ c ∈ ['\n', '\n'], isSpace c = true := by simp [isSpace]
    have sameItems : d.items = (documentAround options lead inside lastAfter).items :=
      Document.items_injective legalDocument.declaration declaration_legal legalDocument.lead blank
        (fun i mem => (legalDocument.items i mem).readable)
        (documentAround_readable options arranged proper)
        (same.trans written)
    intro i mem
    refine legalDocument.items i ?_
    rw [sameItems]
    simp [documentAround, Document.items, mem]
  · intro legalItems
    exact ⟨_, documentAround_legal arranged whole header legalItems, written.symm⟩

theorem cachePieces_whole {c : CacheConfig} (succeeds : (cacheBean c).outcome = .ok ()) :
    Whole (cachePieces c) :=
  .element _ _ (cacheProperties_whole succeeds)

theorem cachePieces_values {c : CacheConfig} (succeeds : (cacheBean c).outcome = .ok ()) :
    attributeValuesOf (forest (cachePieces c)) = (cacheTree c).attributeValues := by
  rw [cachePieces, forest_element _ _ (cacheProperties_whole succeeds), attributeValuesOf,
    attributeValuesOf, List.append_nil]
  rfl

/-- The same for the bean of a cache alone, by the rules of one element. -/
theorem cacheDocument_isElement_iff (rules : Rules) {c : CacheConfig} {text : String}
    (legal : Spelled (isLegalChar · = true) c) (generated : cacheDocument c = .ok text) :
    IsElement rules text ↔
      (rules = .xml → ∀ value ∈ (cacheTree c).attributeValues, '<' ∉ value.toList) := by
  obtain ⟨succeeds, -⟩ := cacheDocument_outcome generated
  obtain ⟨places, written, same, blank⟩ := cacheDocument_write generated
  obtain ⟨-, proper⟩ := cachePieces_proper legal succeeds
  rw [← cachePieces_values succeeds, ← (cachePieces_whole succeeds).angleFree_iff,
    ← placedItems_legal_iff same proper blank]
  constructor
  · rintro ⟨items, -, legalItems, sameText⟩
    have sameItems : items = placedItems places :=
      writeItems_injective (fun i mem => (legalItems i mem).readable)
        (placedItems_readable (proper_of_pieces same proper) blank) (sameText.trans written)
    exact sameItems ▸ legalItems
  · intro legalItems
    obtain ⟨after, inside, lastAfter, rfl, sameInside⟩ := places_of_element same
    have lastBlank : ∀ c ∈ lastAfter, isSpace c = true :=
      blank (.endTag "bean", lastAfter) (by simp)
    refine ⟨_, ?_, legalItems, written.symm⟩
    have content := (cacheProperties_whole succeeds).content inside sameInside
    rw [placedItems_element]
    exact .element _ _ _ _ _ _ content lastBlank

/-! ## Descriptions without angle brackets -/

/-- The characters that a document may hold, except the opening angle bracket. -/
def isBracketFree (c : Char) : Prop := isLegalChar c = true ∧ c ≠ '<'

instance : AdmitsPlain isBracketFree :=
  ⟨fun _ plain => ⟨(isPlainChar_cases plain).2.2.2, (isPlainChar_cases plain).2.2.1⟩⟩

theorem angleFree_of_proper {p : Piece} (proper : p.Proper isBracketFree) :
    AngleFree p.attributes := by
  have values : ∀ attributes, ProperAttributes isBracketFree attributes → AngleFree attributes := by
    intro attributes properAttributes a mem inText
    have value := properAttributes.values a mem
    cases written : a.value with
    | plain text =>
      rw [written] at value inText
      exact (value _ inText).2 rfl
    | written text =>
      rw [written] at value inText
      exact (isPlainChar_cases (value _ inText)).2.2.1 rfl
  cases p with
  | startTag element attributes | emptyTag element attributes => exact values _ proper.2.2
  | leaf element attributes text => exact values _ proper.2.2.1
  | endTag | comment | verbatim => exact List.forall_mem_nil _

/-- If no text of a description has an angle bracket, no attribute value of its document has one. -/
theorem clusterTree_bracketFree {c : ClusterConfig} {clientNear : Option NearCacheConfig}
    {options : DocumentOptions} {u : Unit}
    (free : DocumentSpelled isBracketFree c clientNear options)
    (succeeds : (nodeBeans c clientNear).outcome = .ok u) :
    ∀ value ∈ (clusterTree c clientNear options).attributeValues, '<' ∉ value.toList :=
  (clusterTree_angleFree_iff (documentPieces_whole succeeds)).mp fun p mem =>
    angleFree_of_proper (documentPieces_proper free p mem)

/-- If no text of a cache has an angle bracket, no attribute value of its bean has one. -/
theorem cacheTree_bracketFree {c : CacheConfig} (free : Spelled isBracketFree c)
    (succeeds : (cacheBean c).outcome = .ok ()) :
    ∀ value ∈ (cacheTree c).attributeValues, '<' ∉ value.toList := by
  have proper := (cachePieces_proper free succeeds).2
  rw [← cachePieces_values succeeds, ← (cachePieces_whole succeeds).angleFree_iff]
  exact fun p mem => angleFree_of_proper (proper p mem)

/-! ## All descriptions over legal characters -/

/-- Over legal characters, a generated document keeps every rule of a document, and a generated bean
every rule of one element, but the one on angle brackets in attribute values. It keeps that one too,
and so is well-formed, exactly if no attribute value in its tree holds such a bracket. -/
theorem generated_wellFormed_iff :
    (∀ (c : ClusterConfig) (clientNear : Option NearCacheConfig) (options : DocumentOptions)
        (text : String), LegalTexts c clientNear options →
      clusterDocument c clientNear options = .ok text →
      IsDocument .rawBrackets text ∧ (IsDocument .xml text ↔
        ∀ value ∈ (clusterTree c clientNear options).attributeValues, '<' ∉ value.toList)) ∧
    ∀ (c : CacheConfig) (text : String), Spelled (isLegalChar · = true) c →
      cacheDocument c = .ok text →
      IsElement .rawBrackets text ∧ (IsElement .xml text ↔
        ∀ value ∈ (cacheTree c).attributeValues, '<' ∉ value.toList) := by
  constructor
  · intro c clientNear options text legal generated
    have document := fun rules => clusterDocument_isDocument_iff rules legal generated
    exact ⟨(document .rawBrackets).mpr nofun, by simpa using document .xml⟩
  · intro c text legal generated
    have element := fun rules => cacheDocument_isElement_iff rules legal generated
    exact ⟨(element .rawBrackets).mpr nofun, by simpa using element .xml⟩

/-- A cache of which nothing but the name is given. -/
def namedCache (name : String) : CacheConfig :=
  { CacheConfig.unset with name := some name }

/-- A cluster of one cache of which nothing but the name is given. -/
def namedCacheCluster (name : String) : ClusterConfig :=
  { ClusterConfig.unset with caches := [namedCache name] }

theorem spelled_namedCache {P : Char → Prop} {name : String} (admitted : Over P name) :
    Spelled P (namedCache name) := by
  simp [spelled_cacheConfig, namedCache, CacheConfig.unset, admitted]

theorem spelled_namedCacheCluster {P : Char → Prop} {name : String} (admitted : Over P name) :
    Spelled P (namedCacheCluster name) := by
  simp [spelled_clusterConfig, namedCacheCluster, ClusterConfig.unset, spelled_namedCache admitted]

theorem spelled_default {P : Char → Prop} [AdmitsPlain P] : Spelled P DocumentOptions.default := by
  have location : Plain "classpath:secret.properties" := plain_literal rfl
  have header : Plain "This configuration was generated by gridgen-mcp" := plain_literal rfl
  simp [Spelled, HasTexts.texts, DocumentOptions.default, location.over, header.over]

/-- Quotes, ampersands and closing brackets in a name are no obstacle under either set of rules. -/
theorem quoted_wellFormed :
    (∃ text, clusterDocument (namedCacheCluster "a\"b&amp;'>") none .default = .ok text ∧
        IsDocument .rawBrackets text ∧ IsDocument .xml text) ∧
      ∃ text, cacheDocument (namedCache "a\"b&amp;'>") = .ok text ∧
        IsElement .rawBrackets text ∧ IsElement .xml text := by
  have legal : Over (isLegalChar · = true) "a\"b&amp;'>" :=
    over_ofList.mpr (List.all_eq_true.mp (by decide))
  have free : Over isBracketFree "a\"b&amp;'>" := fun c mem => ⟨legal c mem, by
    rintro rfl
    exact absurd mem (by decide)⟩
  have generated : ∃ text, clusterDocument (namedCacheCluster "a\"b&amp;'>") none .default =
      .ok text := (clusterDocument_ok_iff _ _ _).mpr (by decide)
  obtain ⟨text, generated⟩ := generated
  have cacheGenerated : ∃ text, cacheDocument (namedCache "a\"b&amp;'>") = .ok text := ⟨_, rfl⟩
  obtain ⟨cacheText, cacheGenerated⟩ := cacheGenerated
  have noBracket := clusterTree_bracketFree
    ⟨spelled_namedCacheCluster free, spelled_none, spelled_default⟩
    (clusterDocument_outcome generated).1
  have cacheNoBracket := cacheTree_bracketFree (spelled_namedCache free)
    (cacheDocument_outcome cacheGenerated).1
  obtain ⟨document, documentIff⟩ := generated_wellFormed_iff.1 _ _ _ _
    ⟨spelled_namedCacheCluster legal, spelled_none, spelled_default⟩ generated
  obtain ⟨element, elementIff⟩ :=
    generated_wellFormed_iff.2 _ _ (spelled_namedCache legal) cacheGenerated
  exact ⟨⟨text, generated, document, documentIff.mpr noBracket⟩,
    cacheText, cacheGenerated, element, elementIff.mpr cacheNoBracket⟩

/-- Legal characters are not enough: an angle bracket in a name is written as it is. -/
theorem bracket_not_wellFormed :
    (∃ text, LegalTexts (namedCacheCluster "a<b") none .default ∧
        clusterDocument (namedCacheCluster "a<b") none .default = .ok text ∧
        ¬ IsDocument .xml text) ∧
      ∃ text, Spelled (isLegalChar · = true) (namedCache "a<b") ∧
        cacheDocument (namedCache "a<b") = .ok text ∧ ¬ IsElement .xml text := by
  have admitted : Over (isLegalChar · = true) "a<b" :=
    over_ofList.mpr (List.all_eq_true.mp (by decide))
  have legal : LegalTexts (namedCacheCluster "a<b") none .default :=
    ⟨spelled_namedCacheCluster admitted, spelled_none, spelled_default⟩
  have written : "a<b" ∈ (clusterTree (namedCacheCluster "a<b") none .default).attributeValues := by
    decide
  have cacheWritten : "a<b" ∈ (cacheTree (namedCache "a<b")).attributeValues := by decide
  have bracket : '<' ∈ "a<b".toList := by decide
  have generated : ∃ text, clusterDocument (namedCacheCluster "a<b") none .default = .ok text :=
    (clusterDocument_ok_iff _ _ _).mpr (by decide)
  obtain ⟨text, generated⟩ := generated
  have cacheGenerated : ∃ text, cacheDocument (namedCache "a<b") = .ok text := ⟨_, rfl⟩
  obtain ⟨cacheText, cacheGenerated⟩ := cacheGenerated
  refine ⟨⟨text, legal, generated, fun document => ?_⟩,
    cacheText, spelled_namedCache admitted, cacheGenerated, fun element => ?_⟩
  · have free := (clusterDocument_isDocument_iff .xml legal generated).mp document rfl
    exact free "a<b" written bracket
  · have free :=
      (cacheDocument_isElement_iff .xml (spelled_namedCache admitted) cacheGenerated).mp element rfl
    exact free "a<b" cacheWritten bracket

end GridBeans.Generation
