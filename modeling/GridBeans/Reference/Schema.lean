import GridBeans.Config.Cluster
import GridBeans.Document.Json

/-!
# Schema

The JSON schema of a cluster's description, made from the descriptions of its records. Properties
and definitions are sorted by name; the keywords of one schema keep a fixed order.
-/
namespace GridBeans.Reference

open GridBeans.Json GridBeans.Document GridBeans.Config

/-- The description of a record, with a note on it. -/
structure RecordInfo where
  name : String
  note : Option String
  fields : List FieldInfo

structure ChoiceInfo where
  name : String
  names : List String

def reference (name : String) : Value :=
  .object [("$ref", .string ("#/$defs/" ++ name))]

/-- The keywords for values of a kind, and for null too if it is allowed. -/
def kindKeywords (nullable : Bool) : Kind → List (String × Value)
  | .text => simple "string" []
  | .integer => simple "integer" [("format", .string "int64")]
  | .double => simple "number" [("format", .string "double")]
  | .bool => simple "boolean" []
  | .list _ => simple "array" []
  | .record name _ | .choice name =>
    if nullable then
      [("anyOf", .array [reference name, .object [("type", .string "null")]])]
    else [("$ref", .string ("#/$defs/" ++ name))]
where
  simple (type : String) (more : List (String × Value)) : List (String × Value) :=
    ("type", if nullable then .array [.string type, .string "null"] else .string type) :: more

def itemsKeyword : Kind → List (String × Value)
  | .list items => [("items", .object (kindKeywords false items))]
  | _ => []

def noteKeyword (note : Option String) : List (String × Value) :=
  note.toList.map fun text => ("description", .string text)

def fieldSchema (f : FieldInfo) : Value :=
  .object (noteKeyword f.note ++ kindKeywords (f.presence = .optional) f.kind ++
    f.shown.toList.map (fun v => ("default", v)) ++ itemsKeyword f.kind)

/-- The keywords for the properties of a record; a record without fields has none. -/
def recordKeywords (fields : List FieldInfo) : List (String × Value) :=
  let required := fields.filter fun f => f.presence = .required
  (if fields.isEmpty then []
    else [("properties", .object (sortMembers (fields.map fun f => (f.name, fieldSchema f))))]) ++
    (if required.isEmpty then []
    else [("required", .array (required.map fun f => .string f.name))])

def RecordInfo.definition (r : RecordInfo) : String × Value :=
  (r.name, .object (noteKeyword r.note ++ [("type", .string "object")] ++ recordKeywords r.fields))

def ChoiceInfo.definition (c : ChoiceInfo) : String × Value :=
  (c.name, .object [("type", .string "string"), ("enum", .array (c.names.map .string))])

def infosOf {α : Type} (fields : Fields JsonNode α) : List FieldInfo :=
  fields.infos

/-- The records that a cluster's description is made of, itself apart. -/
def recordInfos : List RecordInfo := [
  ⟨"AtomicConfiguration", none, infosOf AtomicConfiguration.schema⟩,
  ⟨"CacheConfig", none, infosOf CacheConfig.schema⟩,
  ⟨"CloudIpFinder", none, infosOf CloudIpFinder.schema⟩,
  ⟨"DatabaseField", none, infosOf DatabaseField.schema⟩,
  ⟨"DiscoveryConfig",
    some "Discovery SPI settings. `kind` selects which of the payload sections is read.",
    infosOf DiscoveryConfig.schema⟩,
  ⟨"EvictionPolicyConfig", none, infosOf EvictionPolicyConfig.schema⟩,
  ⟨"EvictionPolicyFields", none, infosOf EvictionPolicyFields.schema⟩,
  ⟨"FieldGroup", none, infosOf FieldGroup.schema⟩,
  ⟨"FileSwapSpaceSpi", none, infosOf FileSwapSpaceSpi.schema⟩,
  ⟨"GoogleStorageIpFinder", none, infosOf GoogleStorageIpFinder.schema⟩,
  ⟨"GroupField", none, infosOf GroupField.schema⟩,
  ⟨"HibernateBlobStoreFactory", none, infosOf HibernateBlobStoreFactory.schema⟩,
  ⟨"IndexedType", some "Key/value class pair registered for SQL indexing.",
    infosOf IndexedType.schema⟩,
  ⟨"JdbcBlobStoreFactory", none, infosOf JdbcBlobStoreFactory.schema⟩,
  ⟨"JdbcIpFinder", none, infosOf JdbcIpFinder.schema⟩,
  ⟨"JdbcPojoStoreFactory", none, infosOf JdbcPojoStoreFactory.schema⟩,
  ⟨"JdkMarshaller", none, infosOf JdkMarshaller.schema⟩,
  ⟨"MarshallerConfig", none, infosOf MarshallerConfig.schema⟩,
  ⟨"MulticastIpFinder", none, infosOf MulticastIpFinder.schema⟩,
  ⟨"NearCacheConfig", none, infosOf NearCacheConfig.schema⟩,
  ⟨"OptimizedMarshaller", none, infosOf OptimizedMarshaller.schema⟩,
  ⟨"QueryField", none, infosOf QueryField.schema⟩,
  ⟨"S3IpFinder", none, infosOf S3IpFinder.schema⟩,
  ⟨"SharedFsIpFinder", none, infosOf SharedFsIpFinder.schema⟩,
  ⟨"StoreFactoryConfig", none, infosOf StoreFactoryConfig.schema⟩,
  ⟨"SwapSpaceSpiConfig", none, infosOf SwapSpaceSpiConfig.schema⟩,
  ⟨"TransactionConfiguration", none, infosOf TransactionConfiguration.schema⟩,
  ⟨"TypeMetadata", none, infosOf TypeMetadata.schema⟩,
  ⟨"VmIpFinder", none, infosOf VmIpFinder.schema⟩]

def choiceInfos : List ChoiceInfo := [
  ⟨"CacheMode", CacheMode.all.map CacheMode.name⟩,
  ⟨"MetadataKind", MetadataKind.named.map Prod.fst⟩]

def clusterSchema : Value :=
  .object ([
    ("$schema", .string "https://json-schema.org/draft/2020-12/schema"),
    ("title", .string "ClusterConfig"),
    ("type", .string "object")] ++ recordKeywords (infosOf ClusterConfig.schema) ++
    [("$defs",
      .object (sortMembers
        (recordInfos.map RecordInfo.definition ++ choiceInfos.map ChoiceInfo.definition)))])

end GridBeans.Reference
