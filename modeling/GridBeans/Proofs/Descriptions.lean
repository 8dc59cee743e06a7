import Mathlib.Data.List.TakeWhile
import GridBeans.Operations
import GridBeans.Proofs.Document.Steady

/-!
# Edits of descriptions

Clusters, caches and near caches are read alike from values that differ by edits without effect,
at every place inside them. So for two JSON texts that differ by such edits, every operation has
the same result.
-/
namespace GridBeans

open GridBeans.Config GridBeans.Document GridBeans.Generation
open GridBeans.Json (Tree Draft)

/-! ## Steady descriptions -/

instance : (MulticastIpFinder.codec : Codec JsonNode MulticastIpFinder).Steady :=
  .record (by unfold MulticastIpFinder.schema; infer_instance) (by decide)

instance : (VmIpFinder.codec : Codec JsonNode VmIpFinder).Steady :=
  .record (by unfold VmIpFinder.schema; infer_instance) (by decide)

instance : (S3IpFinder.codec : Codec JsonNode S3IpFinder).Steady :=
  .record (by unfold S3IpFinder.schema; infer_instance) (by decide)

instance : (CloudIpFinder.codec : Codec JsonNode CloudIpFinder).Steady :=
  .record (by unfold CloudIpFinder.schema; infer_instance) (by decide)

instance : (GoogleStorageIpFinder.codec : Codec JsonNode GoogleStorageIpFinder).Steady :=
  .record (by unfold GoogleStorageIpFinder.schema; infer_instance) (by decide)

instance : (JdbcIpFinder.codec : Codec JsonNode JdbcIpFinder).Steady :=
  .record (by unfold JdbcIpFinder.schema; infer_instance) (by decide)

instance : (SharedFsIpFinder.codec : Codec JsonNode SharedFsIpFinder).Steady :=
  .record (by unfold SharedFsIpFinder.schema; infer_instance) (by decide)

instance : (DiscoveryConfig.codec : Codec JsonNode DiscoveryConfig).Steady :=
  .record (by unfold DiscoveryConfig.schema; infer_instance) (by decide)

instance : (EvictionPolicyFields.codec : Codec JsonNode EvictionPolicyFields).Steady :=
  .record (by unfold EvictionPolicyFields.schema; infer_instance) (by decide)

instance : (EvictionPolicyConfig.codec : Codec JsonNode EvictionPolicyConfig).Steady :=
  .record (by unfold EvictionPolicyConfig.schema; infer_instance) (by decide)

instance : (NearCacheConfig.codec : Codec JsonNode NearCacheConfig).Steady :=
  .record (by unfold NearCacheConfig.schema; infer_instance) (by decide)

instance : (AtomicConfiguration.codec : Codec JsonNode AtomicConfiguration).Steady :=
  .record (by unfold AtomicConfiguration.schema; infer_instance) (by decide)

instance : (TransactionConfiguration.codec : Codec JsonNode TransactionConfiguration).Steady :=
  .record (by unfold TransactionConfiguration.schema; infer_instance) (by decide)

instance : (OptimizedMarshaller.codec : Codec JsonNode OptimizedMarshaller).Steady :=
  .record (by unfold OptimizedMarshaller.schema; infer_instance) (by decide)

instance : (JdkMarshaller.codec : Codec JsonNode JdkMarshaller).Steady :=
  .record (by unfold JdkMarshaller.schema; infer_instance) (by decide)

instance : (MarshallerConfig.codec : Codec JsonNode MarshallerConfig).Steady :=
  .record (by unfold MarshallerConfig.schema; infer_instance) (by decide)

instance : (FileSwapSpaceSpi.codec : Codec JsonNode FileSwapSpaceSpi).Steady :=
  .record (by unfold FileSwapSpaceSpi.schema; infer_instance) (by decide)

instance : (SwapSpaceSpiConfig.codec : Codec JsonNode SwapSpaceSpiConfig).Steady :=
  .record (by unfold SwapSpaceSpiConfig.schema; infer_instance) (by decide)

instance : (JdbcPojoStoreFactory.codec : Codec JsonNode JdbcPojoStoreFactory).Steady :=
  .record (by unfold JdbcPojoStoreFactory.schema; infer_instance) (by decide)

instance : (JdbcBlobStoreFactory.codec : Codec JsonNode JdbcBlobStoreFactory).Steady :=
  .record (by unfold JdbcBlobStoreFactory.schema; infer_instance) (by decide)

instance : (HibernateBlobStoreFactory.codec : Codec JsonNode HibernateBlobStoreFactory).Steady :=
  .record (by unfold HibernateBlobStoreFactory.schema; infer_instance) (by decide)

instance : (StoreFactoryConfig.codec : Codec JsonNode StoreFactoryConfig).Steady :=
  .record (by unfold StoreFactoryConfig.schema; infer_instance) (by decide)

instance : (DatabaseField.codec : Codec JsonNode DatabaseField).Steady :=
  .record (by unfold DatabaseField.schema; infer_instance) (by decide)

instance : (QueryField.codec : Codec JsonNode QueryField).Steady :=
  .record (by unfold QueryField.schema; infer_instance) (by decide)

instance : (GroupField.codec : Codec JsonNode GroupField).Steady :=
  .record (by unfold GroupField.schema; infer_instance) (by decide)

instance : (FieldGroup.codec : Codec JsonNode FieldGroup).Steady :=
  .record (by unfold FieldGroup.schema; infer_instance) (by decide)

instance : (MetadataKind.codec : Codec JsonNode MetadataKind).Steady :=
  inferInstanceAs (choice _ _).Steady

instance : (TypeMetadata.codec : Codec JsonNode TypeMetadata).Steady :=
  .record (by unfold TypeMetadata.schema; infer_instance) (by decide)

instance : (CacheMode.codec : Codec JsonNode CacheMode).Steady :=
  inferInstanceAs (choice _ _).Steady

instance : (IndexedType.codec : Codec JsonNode IndexedType).Steady :=
  .record (by unfold IndexedType.schema; infer_instance) (by decide)

instance : (CacheConfig.codec : Codec JsonNode CacheConfig).Steady :=
  .record (by unfold CacheConfig.schema; infer_instance) (by decide)

instance : (ClusterConfig.codec : Codec JsonNode ClusterConfig).Steady :=
  .record (by unfold ClusterConfig.schema; infer_instance) (by decide)

/-! ## Values and texts -/

abbrev jsonCodec (α : Type) [Readable α] : Codec JsonNode α :=
  Readable.codec

/-- Two JSON texts, each one value and nothing else, whose values differ by edits. -/
structure AlikeTexts (α : Type) [Readable α] (text other : String) : Prop where
  isJson : isJson text = true
  isJson_other : Document.isJson other = true
  ends : (Draft.ofText text).trailing = false
  ends_other : (Draft.ofText other).trailing = false
  alike : Alike (jsonCodec α).kind (Draft.ofText text).tree (Draft.ofText other).tree

/-- Edits have no effect on what is read for a type, be it from a value or from a text. -/
structure ReadAlike (α : Type) [Readable α] : Prop where
  value : ∀ (origin : Origin) (t other : Tree), Alike (jsonCodec α).kind t other → ∀ a : α,
    (jsonCodec α).read ⟨origin, t⟩ = .ok a ↔ (jsonCodec α).read ⟨origin, other⟩ = .ok a
  text : ∀ text other : String, AlikeTexts α text other → ∀ a : α,
    readText α text = .ok a ↔ readText α other = .ok a

section

variable {α : Type} [Readable α]

/-- A text that is meant as JSON and ends with its value is read exactly as the tree of its draft
is. -/
theorem readText_ok_iff {text : String} (json : isJson text = true)
    (ends : (Draft.ofText text).trailing = false) {a : α} :
    readText α text = .ok a ↔ (jsonCodec α).read ⟨.text, (Draft.ofText text).tree⟩ = .ok a := by
  have readJson : readJsonText (jsonCodec α) text =
      (jsonCodec α).read ⟨.text, (Draft.ofText text).tree⟩ := by
    rw [readJsonText, ends]
    exact bind_pure _
  rw [readText, if_pos json, readJson]
  cases (jsonCodec α).read ⟨.text, (Draft.ofText text).tree⟩ <;> simp

/-- A codec that is steady on trees makes texts and values alike, since a text is read through its
tree only. -/
theorem ReadAlike.of_steady (steady : (jsonCodec α).Steady) : ReadAlike α where
  value origin t other alike a := steady.read_alike alike origin a
  text text other alike a := by
    rw [readText_ok_iff alike.isJson alike.ends,
      readText_ok_iff alike.isJson_other alike.ends_other]
    exact steady.read_alike alike.alike .text a

/-- Two alike texts give a parameter the same value, as soon as one of them can be read at all. -/
theorem ReadAlike.readParameter_eq (same : ReadAlike α) {text other : String}
    (alike : AlikeTexts α text other) {a : α} (decodes : readText α text = .ok a)
    (parameter : String) : readParameter α parameter text = readParameter α parameter other := by
  rw [readParameter, readParameter, decodes, (same.text text other alike a).mp decodes]

end

/-- Descriptions of clusters are read alike. The instances of `Steady` cover every field, to any
depth. -/
theorem clusters_readAlike : ReadAlike ClusterConfig :=
  .of_steady (inferInstanceAs (ClusterConfig.codec : Codec JsonNode ClusterConfig).Steady)

theorem caches_readAlike : ReadAlike CacheConfig :=
  .of_steady (inferInstanceAs (CacheConfig.codec : Codec JsonNode CacheConfig).Steady)

theorem nearCaches_readAlike : ReadAlike NearCacheConfig :=
  .of_steady (inferInstanceAs (NearCacheConfig.codec : Codec JsonNode NearCacheConfig).Steady)

/-! ## Operations -/

/-- A near cache before and after edits: the same text, or none, or two texts that differ by
edits. -/
inductive AlikeNear : Option String → Option String → Prop
  | same (near : Option String) : AlikeNear near near
  | edited {text other : String} {near : NearCacheConfig} :
      AlikeTexts NearCacheConfig text other → readText NearCacheConfig text = .ok near →
      AlikeNear (some text) (some other)

/-- A text that is meant as JSON has a brace in it, so it never counts as left out. -/
theorem not_isBlank_of_isJson {text : String} (json : isJson text = true) :
    Text.isBlank text = false := by
  by_contra blank
  rw [Bool.not_eq_false, Text.isBlank, List.all_eq_true] at blank
  rw [isJson, Text.trimStart, List.dropWhile_eq_nil_iff.mpr blank] at json
  exact absurd json (by decide)

/-- The near cache of a client is the same before and after an edit, also where none is given. -/
theorem readClientNear_alike {near other : Option String} (alike : AlikeNear near other) :
    readClientNear near = readClientNear other := by
  cases alike with
  | same => rfl
  | @edited text other _ alike decodes =>
    rw [readClientNear, readClientNear, not_isBlank_of_isJson alike.isJson,
      not_isBlank_of_isJson alike.isJson_other,
      nearCaches_readAlike.readParameter_eq alike decodes]

/-- Edits change neither what is read from a description nor the result of any operation on it. -/
theorem edits_change_no_result :
    (ReadAlike ClusterConfig ∧ ReadAlike CacheConfig ∧ ReadAlike NearCacheConfig) ∧
      (∀ (text other : String) (cluster : ClusterConfig), AlikeTexts ClusterConfig text other →
        readText ClusterConfig text = .ok cluster →
          clusterErrors text = clusterErrors other ∧
          generateSecretProperties text = generateSecretProperties other ∧
          ∀ (near otherNear : Option String) (options : DocumentOptions), AlikeNear near otherNear →
            generateClusterXml text near options = generateClusterXml other otherNear options) ∧
      ∀ (text other : String) (cache : CacheConfig), AlikeTexts CacheConfig text other →
        readText CacheConfig text = .ok cache →
          generateCacheXml text = generateCacheXml other := by
  refine ⟨⟨clusters_readAlike, caches_readAlike, nearCaches_readAlike⟩,
    fun text other cluster alike decodes => ?_, fun text other cache alike decodes => ?_⟩
  · have same := clusters_readAlike.readParameter_eq alike decodes "cluster_config"
    refine ⟨?_, ?_, fun near otherNear options alikeNear => ?_⟩
    · rw [clusterErrors, clusterErrors, same]
    · rw [generateSecretProperties, generateSecretProperties, same]
    · rw [generateClusterXml, generateClusterXml, same, readClientNear_alike alikeNear]
  · rw [generateCacheXml, generateCacheXml, caches_readAlike.readParameter_eq alike decodes]

/-- Two texts of one cluster, of which the second has an empty list for the caches. -/
theorem cluster_alike :
    AlikeTexts ClusterConfig "\x7b\"name\":\"c\"\x7d" "\x7b\"caches\":[],\"name\":\"c\"\x7d" :=
  ⟨by decide, by decide, by rfl, by rfl,
    .rel _ _ (.emptyList (List.mem_of_getElem? (i := 33) rfl) (by decide))⟩

/-- For a cache, the same member belongs to no field. -/
theorem cache_alike :
    AlikeTexts CacheConfig "\x7b\"name\":\"c\"\x7d" "\x7b\"caches\":[],\"name\":\"c\"\x7d" :=
  ⟨by decide, by decide, by rfl, by rfl, .rel _ _ (.unknown (by decide) rfl)⟩

/-- For a near cache, a null is added. -/
theorem nearCache_alike :
    AlikeTexts NearCacheConfig "\x7b\"nearStartSize\":5\x7d"
      "\x7b\"nearEvictionPolicy\":null,\"nearStartSize\":5\x7d" :=
  ⟨by decide, by decide, by rfl, by rfl,
    .rel _ _ (.null (List.mem_of_getElem? (i := 1) rfl) (by decide))⟩

/-- The results for these texts are the same. -/
theorem alike_texts_have_same_results :
    clusterErrors "\x7b\"name\":\"c\"\x7d" =
        clusterErrors "\x7b\"caches\":[],\"name\":\"c\"\x7d" ∧
      generateClusterXml "\x7b\"name\":\"c\"\x7d" (some "\x7b\"nearStartSize\":5\x7d")
          .default =
        generateClusterXml "\x7b\"caches\":[],\"name\":\"c\"\x7d"
          (some "\x7b\"nearEvictionPolicy\":null,\"nearStartSize\":5\x7d") .default ∧
      generateCacheXml "\x7b\"name\":\"c\"\x7d" =
        generateCacheXml "\x7b\"caches\":[],\"name\":\"c\"\x7d" := by
  obtain ⟨-, clusters, caches⟩ := edits_change_no_result
  have decodes : readText ClusterConfig "\x7b\"name\":\"c\"\x7d" = .ok _ := rfl
  have nearDecodes : readText NearCacheConfig "\x7b\"nearStartSize\":5\x7d" = .ok _ := rfl
  have cacheDecodes : readText CacheConfig "\x7b\"name\":\"c\"\x7d" = .ok _ := rfl
  obtain ⟨errors, -, documents⟩ := clusters _ _ _ cluster_alike decodes
  exact ⟨errors, documents _ _ _ (.edited nearCache_alike nearDecodes),
    caches _ _ _ cache_alike cacheDecodes⟩

end GridBeans
