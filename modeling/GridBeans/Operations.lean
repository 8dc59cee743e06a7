import GridBeans.Consistency
import GridBeans.Document.Text
import GridBeans.Generation.Document
import GridBeans.Reference.Listing
import GridBeans.Reference.Schema

/-!
# Operations

What the library offers on texts: the document of a cluster or of a cache, the template of the
properties file, the consistency of a cluster, and the references.
-/
namespace GridBeans

open GridBeans.Config GridBeans.Document GridBeans.Generation

instance : Readable ClusterConfig := ⟨ClusterConfig.codec⟩

instance : Readable CacheConfig := ⟨CacheConfig.codec⟩

instance : Readable NearCacheConfig := ⟨NearCacheConfig.codec⟩

inductive OperationError where
  | rejected (parameter : String) (rejection : Rejection)
  | failed (failure : Failure)
  deriving DecidableEq, Repr

def OperationError.message : OperationError → String
  | .rejected parameter rejection => rejection.message parameter
  | .failed failure => failure.message

/-- Reads the text of a parameter. -/
def readParameter (α : Type) [Readable α] (parameter text : String) : Except OperationError α :=
  match readText α text with
  | .ok a => .ok a
  | .error rejection => .error (.rejected parameter rejection)

def generated {α : Type} : Except Failure α → Except OperationError α
  | .ok a => .ok a
  | .error failure => .error (.failed failure)

/-- The near cache of a client node; a blank text counts as none. -/
def readClientNear : Option String → Except OperationError (Option NearCacheConfig)
  | none => .ok none
  | some text =>
    if Text.isBlank text then .ok none
    else some <$> readParameter NearCacheConfig "client_near_config" text

/-- The document of a cluster. -/
def generateClusterXml (clusterText : String) (clientNearText : Option String)
    (options : DocumentOptions) : Except OperationError String := do
  let cluster ← readParameter ClusterConfig "cluster_config" clusterText
  let clientNear ← readClientNear clientNearText
  generated (clusterDocument cluster clientNear options)

def generateCacheXml (cacheText : String) : Except OperationError String := do
  let cache ← readParameter CacheConfig "cache_config" cacheText
  generated (cacheDocument cache)

def generateSecretProperties (clusterText : String) : Except OperationError String := do
  let cluster ← readParameter ClusterConfig "cluster_config" clusterText
  generated (secretProperties cluster)

/-- What is wrong with the description of a cluster; nothing if it is valid. -/
def clusterErrors (clusterText : String) : List String :=
  match readParameter ClusterConfig "cluster_config" clusterText with
  | .error e => [e.message]
  | .ok cluster => (violations cluster).map Violation.message

def eventGroupsText : String :=
  Reference.eventGroupListing.pretty 0

def knownClassesText : String :=
  Reference.classListing.pretty 0

def clusterSchemaText : String :=
  Reference.clusterSchema.pretty 0

end GridBeans
