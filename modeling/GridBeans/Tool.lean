import GridBeans.Operations

/-!
# Tools

The operations as tools that are called by name with named arguments. Every call has a text as its
answer, and says whether it is an error.
-/
namespace GridBeans

open GridBeans.Generation GridBeans.Json

inductive Tool where
  | clusterXml (cluster : String) (clientNear : Option String)
  | cacheXml (cache : String)
  | secretProperties (cluster : String)
  | validate (cluster : String)
  | eventGroups
  | knownClasses
  | clusterSchema
  deriving DecidableEq, Repr

structure ToolAnswer where
  isError : Bool
  text : String
  deriving DecidableEq, Repr

def textArgument? (name : String) (arguments : List (String × Value)) : Option String :=
  match member? name arguments with
  | some (.string text) => some text
  | _ => none

/-- The tool with a name and its arguments; none if there is no such tool or an argument is
missing. -/
def Tool.ofCall? (name : String) (arguments : List (String × Value)) : Option Tool :=
  let cluster? := textArgument? "cluster_config" arguments
  match name with
  | "generate_cluster_xml" =>
    cluster?.map fun text => .clusterXml text (textArgument? "client_near_config" arguments)
  | "generate_cache_xml" => (textArgument? "cache_config" arguments).map .cacheXml
  | "generate_secret_properties" => cluster?.map .secretProperties
  | "validate_cluster_config" => cluster?.map .validate
  | "list_event_groups" => some .eventGroups
  | "list_known_classes" => some .knownClasses
  | "cluster_config_schema" => some .clusterSchema
  | _ => none

def ToolAnswer.ofResult : Except OperationError String → ToolAnswer
  | .ok text => ⟨false, text⟩
  | .error e => ⟨true, e.message⟩

/-- The answer of a tool in an environment that asks for these options. -/
def Tool.answer (options : DocumentOptions) : Tool → ToolAnswer
  | .clusterXml cluster clientNear =>
    .ofResult (generateClusterXml cluster clientNear options)
  | .cacheXml cache => .ofResult (generateCacheXml cache)
  | .secretProperties cluster => .ofResult (generateSecretProperties cluster)
  | .validate cluster =>
    match clusterErrors cluster with
    | [] => ⟨false, "Configuration is valid."⟩
    | errors => ⟨true, "Validation errors:\n" ++ "\n".intercalate errors⟩
  | .eventGroups => ⟨false, eventGroupsText⟩
  | .knownClasses => ⟨false, knownClassesText⟩
  | .clusterSchema => ⟨false, clusterSchemaText⟩

end GridBeans
