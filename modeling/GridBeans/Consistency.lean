import GridBeans.Catalogue.Events
import GridBeans.Config.Cluster
import GridBeans.Generation.IpFinder

/-!
# Consistency

The rules that a description of a cluster should keep although it can be read without them. All
violations are reported, in a fixed order: the name, discovery, event groups, then cache by cache.
-/
namespace GridBeans

open GridBeans.Config GridBeans.Catalogue GridBeans.Generation GridBeans.Text

/-- A cache as it is named in reports: by its position, and its name if it has one. -/
structure CacheLabel where
  index : Nat
  name : Option String
  deriving DecidableEq, Repr

inductive Violation where
  | nameMissing
  | discoveryFailure (failure : Failure)
  | addressesMissing
  | discoveryFieldMissing (kind : FinderKind) (field : String)
  | unknownEventGroup (name : String)
  /-- Swapping is on for a cache, but the cluster has no swap space. -/
  | swapSpaceMissing (cache : CacheLabel)
  /-- A store is neither read through nor written through. -/
  | storeUnused (cache : CacheLabel)
  | throughWithoutStore (cache : CacheLabel)
  | writeBehindWithoutStore (cache : CacheLabel)
  deriving DecidableEq, Repr

def CacheLabel.text (l : CacheLabel) : String :=
  "caches[" ++ toString l.index ++ "]" ++
    (match nonEmpty? l.name with
    | some name => " (" ++ name ++ ")"
    | none => "")

def Violation.message : Violation → String
  | .nameMissing => "name is required"
  | .discoveryFailure failure => "discovery: " ++ failure.message
  | .addressesMissing => "discovery.Vm.addresses must contain at least one address"
  | .discoveryFieldMissing kind field => "discovery." ++ kind.name ++ "." ++ field ++ " is required"
  | .unknownEventGroup name => "includeEventTypes: unknown event group " ++ name
  | .swapSpaceMissing cache =>
    cache.text ++ ": swapEnabled requires swapSpaceSpi on the cluster"
  | .storeUnused cache => cache.text ++ ": cacheStoreFactory requires readThrough or writeThrough"
  | .throughWithoutStore cache =>
    cache.text ++ ": readThrough and writeThrough require cacheStoreFactory"
  | .writeBehindWithoutStore cache =>
    cache.text ++ ": writeBehindEnabled requires cacheStoreFactory"

/-- The violation, where a rule does not hold. -/
def violationIf (broken : Bool) (v : Violation) : List Violation :=
  if broken then [v] else []

/-- A field of a finder that may not be blank. -/
def requiredText (kind : FinderKind) (field : String) (value : Option String) : List Violation :=
  violationIf (isBlankOrAbsent value) (.discoveryFieldMissing kind field)

/-- What a discovery section lacks. A missing section lacks everything. -/
def discoveryViolations (d : DiscoveryConfig) : List Violation :=
  match FinderKind.ofName d.kind with
  | .error failure => [.discoveryFailure failure]
  | .ok .vm => violationIf ((d.vm.map (·.addresses)).getD [] |>.isEmpty) .addressesMissing
  | .ok .s3 => requiredText .s3 "bucketName" (d.s3.bind (·.bucketName))
  | .ok .cloud =>
    requiredText .cloud "identity" (d.cloud.bind (·.identity)) ++
      requiredText .cloud "provider" (d.cloud.bind (·.provider))
  | .ok .googleStorage =>
    requiredText .googleStorage "projectName" (d.googleStorage.bind (·.projectName)) ++
      requiredText .googleStorage "bucketName" (d.googleStorage.bind (·.bucketName)) ++
      requiredText .googleStorage "serviceAccountP12FilePath"
        (d.googleStorage.bind (·.serviceAccountP12FilePath)) ++
      requiredText .googleStorage "serviceAccountId" (d.googleStorage.bind (·.serviceAccountId))
  | .ok .multicast | .ok .jdbc | .ok .sharedFs => []

def hasSwapSpace (c : ClusterConfig) : Bool :=
  !isBlankOrAbsent (c.swapSpaceSpi.bind (·.kind))

def hasStore (c : CacheConfig) : Bool :=
  !isBlankOrAbsent (c.cacheStoreFactory.bind (·.kind))

def isThrough (c : CacheConfig) : Bool :=
  c.readThrough = some true || c.writeThrough = some true

/-- What is wrong with the cache at a position: swapping without a swap space, then a store and the
settings that should go with it. -/
def cacheViolations (swapSpace : Bool) (index : Nat) (c : CacheConfig) : List Violation :=
  let label : CacheLabel := ⟨index, c.name⟩
  violationIf (c.swapEnabled = some true && !swapSpace) (.swapSpaceMissing label) ++
    violationIf (hasStore c && !isThrough c) (.storeUnused label) ++
    violationIf (isThrough c && !hasStore c) (.throughWithoutStore label) ++
    violationIf (c.writeBehindEnabled = some true && !hasStore c) (.writeBehindWithoutStore label)

/-- What is wrong with caches from a position on, cache by cache. Each violation names its cache by
position. -/
def cachesViolations (swapSpace : Bool) (index : Nat) : List CacheConfig → List Violation
  | [] => []
  | c :: rest => cacheViolations swapSpace index c ++ cachesViolations swapSpace (index + 1) rest

/-- Every group name that no group has. -/
def eventGroupViolations (names : List String) : List Violation :=
  names.flatMap fun name => violationIf (eventsOf? name).isNone (.unknownEventGroup name)

/-- Every rule that a cluster breaks. -/
def violations (c : ClusterConfig) : List Violation :=
  violationIf (isBlankOrAbsent c.name) .nameMissing ++
    (match c.discovery with
    | some d => discoveryViolations d
    | none => []) ++
    eventGroupViolations c.includeEventTypes ++
    cachesViolations (hasSwapSpace c) 0 c.caches

end GridBeans
