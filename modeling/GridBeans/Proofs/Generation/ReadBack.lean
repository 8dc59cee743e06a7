import GridBeans.Proofs.Config.Unset
import GridBeans.Proofs.Generation.Document
import GridBeans.Proofs.Generation.Faults

/-!
# Documents read back

A generated document is read back as the tree of the pieces it was written from. So no text of a
description adds, removes or moves an element, and each text is found again, character by
character, where it was put.
-/
namespace GridBeans.Generation

open GridBeans.Xml GridBeans.Markup GridBeans.Config

theorem placedItems_readable {P : Char → Prop} {places : List Placed}
    (proper : ∀ q ∈ places, q.1.Proper P) (blank : ∀ q ∈ places, ∀ c ∈ q.2, isSpace c = true) :
    ∀ i ∈ placedItems places, i.Readable := by
  intro i mem
  obtain ⟨q, inside, written⟩ := List.mem_flatMap.mp mem
  exact (proper q inside).readable (blank q inside) i written

/-- The header comment ends where it was meant to, whatever its text. -/
theorem headerItem_readable (options : DocumentOptions) : (headerItem options).Readable :=
  have noAngle : '<' ∉ ['\n'] := by decide
  ⟨hyphensApart_padded (spaceHyphens_apart false _).1, noAngle⟩

theorem proper_of_pieces {P : Char → Prop} {pieces : List Piece} {places : List Placed}
    (same : places.map Prod.fst = pieces) (proper : ∀ p ∈ pieces, p.Proper P) :
    ∀ q ∈ places, q.1.Proper P :=
  fun q mem => proper q.1 (same ▸ List.mem_map_of_mem mem)

/-- A document around proper pieces can be read, whatever blanks stand between them. -/
theorem documentAround_readable {P : Char → Prop} (options : DocumentOptions)
    {pieces : List Piece} {lead lastAfter : List Char} {inside : List Placed}
    (arranged : Arranged pieces lead inside lastAfter) (proper : ∀ p ∈ pieces, p.Proper P) :
    ∀ i ∈ (documentAround options lead inside lastAfter).items, i.Readable := by
  have noAngle : ∀ cs : List Char, (∀ c ∈ cs, isSpace c = true) → '<' ∉ cs :=
    fun cs blank mem => absurd (blank _ mem) (by decide)
  have rootLegal : rootTag.Legal .xml := rootTag_legal
  have start : (⟨rootTag, '\n' :: lead⟩ : Item).Readable := by
    refine ⟨rootLegal.readable, fun mem => ?_⟩
    rcases List.mem_cons.mp mem with same | inLead
    · exact absurd same (by decide)
    · exact noAngle lead arranged.lead inLead
  have content := placedItems_readable (proper_of_pieces arranged.pieces proper) arranged.inside
  have ending : (⟨.endTag "beans".toList [], lastAfter⟩ : Item).Readable :=
    ⟨⟨isName_literal (by decide), List.forall_mem_nil _⟩, noAngle lastAfter arranged.lastAfter⟩
  intro i mem
  simp only [documentAround, Document.items, List.mem_append, List.mem_cons, List.not_mem_nil,
    or_false] at mem
  rcases mem with rfl | rfl | written | rfl
  · exact headerItem_readable options
  · exact start
  · exact content i written
  · exact ending

/-- Reading the items of a document gives its root element around the forest of its pieces. -/
theorem documentAround_reads {options : DocumentOptions} {pieces : List Piece}
    {lead lastAfter : List Char} {inside : List Placed}
    (arranged : Arranged pieces lead inside lastAfter) (whole : Whole pieces)
    (proper : ∀ p ∈ pieces, p.Proper fun _ => True) :
    readNodes (documentAround options lead inside lastAfter).items [] [] =
      some [.element "beans" (rootAttributes.map Attribute.stated) (forest pieces)] := by
  have blankLead : ('\n' :: lead).all isSpace = true := by
    simpa [isSpace] using arranged.lead
  have blankLast : lastAfter.all isSpace = true := List.all_eq_true.mpr arranged.lastAfter
  have each : ∀ q ∈ inside, q.1.Proper (fun _ => True) ∧ ∀ c ∈ q.2, isSpace c = true :=
    fun q mem => ⟨proper_of_pieces arranged.pieces proper q mem, arranged.inside q mem⟩
  have readInside := whole.reads inside arranged.pieces each
  have structural : isTextElement "beans".toList = false := by decide
  have split : (documentAround options lead inside lastAfter).items =
      headerItem options :: ⟨rootTag, '\n' :: lead⟩ ::
        (placedItems inside ++ [⟨.endTag "beans".toList [], lastAfter⟩]) := by
    simp [documentAround, Document.items]
  rw [split, headerItem, readNodes, if_pos (by decide), rootTag, readNodes, structural,
    if_neg (by decide), if_pos blankLead, readInside, readNodes, if_pos ⟨rfl, blankLast⟩]
  simp [readNodes, OpenElement.close, rootRawAttributes_decoded]

/-- A generated document is read as the tree of its beans, whatever characters the description has.
-/
theorem clusterDocument_reads {c : ClusterConfig} {clientNear : Option NearCacheConfig}
    {options : DocumentOptions} {text : String}
    (generated : clusterDocument c clientNear options = .ok text) :
    readDocument text = some (clusterTree c clientNear options) := by
  obtain ⟨succeeds, -⟩ := clusterDocument_outcome generated
  obtain ⟨lead, inside, lastAfter, written, arranged⟩ := clusterDocument_write generated
  have proper := documentPieces_proper (P := fun _ => True) ⟨spelled_everything c,
    spelled_everything clientNear, spelled_everything options⟩
  have blank : ∀ c ∈ ['\n', '\n'], isSpace c = true := by simp [isSpace]
  have readable := documentAround_readable options arranged proper
  rw [readDocument_write declaration_legal blank readable written,
    documentAround_reads arranged (documentPieces_whole succeeds) proper]
  rfl

/-- The same for the bean of a cache alone, which is read as one element. -/
theorem cacheDocument_reads {c : CacheConfig} {text : String}
    (generated : cacheDocument c = .ok text) : readElement text = some (cacheTree c) := by
  obtain ⟨succeeds, -⟩ := cacheDocument_outcome generated
  obtain ⟨places, written, same, blank⟩ := cacheDocument_write generated
  obtain ⟨-, proper⟩ := cachePieces_proper (P := fun _ => True) (spelled_everything c) succeeds
  have properPlaces := proper_of_pieces same proper
  have whole : Whole (cachePieces c) := .element _ _ (cacheProperties_whole succeeds)
  have reads := whole.reads places same (fun q mem => ⟨properPlaces q mem, blank q mem⟩) [] [] []
  rw [List.append_nil] at reads
  rw [readElement, written, scanItems_write _ (placedItems_readable properPlaces blank)]
  show (readNodes (placedItems places) [] []).bind only = _
  rw [reads, cachePieces, forest_element _ _ (cacheProperties_whole succeeds)]
  rfl

/-- What a reader makes of a generated text is the tree that the texts of the description build
without being written: for the document of every cluster, and for the bean of every cache. -/
theorem generated_reads_back :
    (∀ (c : ClusterConfig) (clientNear : Option NearCacheConfig) (options : DocumentOptions)
        (text : String), clusterDocument c clientNear options = .ok text →
      readDocument text = some (clusterTree c clientNear options)) ∧
    ∀ (c : CacheConfig) (text : String), cacheDocument c = .ok text →
      readElement text = some (cacheTree c) :=
  ⟨fun _ _ _ _ generated => clusterDocument_reads generated,
    fun _ _ generated => cacheDocument_reads generated⟩

/-- A cache with a name that looks like markup. -/
def markupNamedCache : CacheConfig :=
  { CacheConfig.unset with name := some "a\"/></bean>&amp;<b" }

/-- A cluster with texts that look like markup in attributes and in lists. -/
def markupTextCluster : ClusterConfig :=
  { ClusterConfig.unset with
    discovery := some { DiscoveryConfig.unset with
      kind := "Vm", vm := some ⟨["</value><value>", "&lt;", ""]⟩ }
    deploymentMode := some "\" x=\"<&quot;"
    caches := [markupNamedCache] }

/-- Options with a header that would end its comment. -/
def markupHeaderOptions : DocumentOptions :=
  { DocumentOptions.default with headerComment := "--><beans/><!--" }

/-- Names and headers that look like markup are read back as they were given. -/
theorem markupText_reads_back :
    (∃ text, clusterDocument markupTextCluster none markupHeaderOptions = .ok text ∧
        readDocument text = some (clusterTree markupTextCluster none markupHeaderOptions)) ∧
      ∃ text, cacheDocument markupNamedCache = .ok text ∧
        readElement text = some (cacheTree markupNamedCache) := by
  have noFault : faults markupTextCluster none = [] := by decide
  obtain ⟨text, generated⟩ :=
    (clusterDocument_ok_iff markupTextCluster none markupHeaderOptions).mpr noFault
  have cacheGenerated : ∃ text, cacheDocument markupNamedCache = .ok text := ⟨_, rfl⟩
  obtain ⟨cacheText, cacheGenerated⟩ := cacheGenerated
  exact ⟨⟨text, generated, generated_reads_back.1 _ _ _ _ generated⟩,
    cacheText, cacheGenerated, generated_reads_back.2 _ _ cacheGenerated⟩

example : cacheTree markupNamedCache = .element "bean" [("class", cacheClass)]
    [.element "property" [("name", "name"), ("value", "a\"/></bean>&amp;<b")] []] := rfl

end GridBeans.Generation
