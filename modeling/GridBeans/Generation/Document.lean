import GridBeans.Generation.NodeBean

/-!
# Documents

The whole configuration of a cluster as one document, the bean of one cache alone, and the template
of the properties file that holds the credentials of the data sources.
-/
namespace GridBeans.Generation

open GridBeans.Markup GridBeans.Config

/-- What a document says that does not come from the description of the cluster. -/
structure DocumentOptions where
  /-- Where the properties file with the credentials is found. -/
  propertiesLocation : String
  /-- The comment at the head of the document. -/
  headerComment : String
  deriving DecidableEq, Repr

def DocumentOptions.default : DocumentOptions :=
  ⟨"classpath:secret.properties", "This configuration was generated by gridgen-mcp"⟩

def beansNamespace : String := "http://www.springframework.org/schema/beans"

def utilNamespace : String := "http://www.springframework.org/schema/util"

def instanceNamespace : String := "http://www.w3.org/2001/XMLSchema-instance"

def placeholderClass : String :=
  "org.springframework.beans.factory.config.PropertyPlaceholderConfigurer"

/-- The declaration, the header comment and the start of the root element. -/
def documentHead (options : DocumentOptions) : String :=
  "<?xml version=\"1.0\" encoding=\"UTF-8\"?>\n\n" ++
    (Piece.comment (commentText options.headerComment)).render ++ "\n" ++
    "<beans xmlns=\"" ++ beansNamespace ++ "\"\n" ++
    "       xmlns:xsi=\"" ++ instanceNamespace ++ "\"\n" ++
    "       xmlns:util=\"" ++ utilNamespace ++ "\"\n" ++
    "       xsi:schemaLocation=\"" ++ beansNamespace ++ "\n" ++
    "                           " ++ beansNamespace ++ "/spring-beans.xsd\n" ++
    "                           " ++ utilNamespace ++ "\n" ++
    "                           " ++ utilNamespace ++ "/spring-util.xsd\">\n"

/-- A reference to a key of the properties file. -/
def placeholder (beanId key : String) : String :=
  "$\x7b" ++ beanId ++ ".jdbc." ++ key ++ "\x7d"

/-- The bean of a data source, which takes its credentials from the properties file. -/
def dataSourceBean (s : DataSource) : Script Unit := do
  Script.block "bean" [attr "id" s.beanId, writtenAttr "class" s.className] do
    property "URL" (some (placeholder s.beanId "url"))
    property "user" (some (placeholder s.beanId "username"))
    property "password" (some (placeholder s.beanId "password"))
  Script.blank

/-- The beans ahead of the node: the reader of the properties file and the data sources. -/
def preamble (options : DocumentOptions) (sources : List DataSource) : Script Unit :=
  if sources.isEmpty then pure ()
  else do
    Script.line (.comment "Load external properties file.")
    Script.block "bean" [writtenAttr "id" "placeholderConfig", writtenAttr "class" placeholderClass]
      (property "location" (some options.propertiesLocation))
    Script.blank
    Script.line
      (.comment "Data source beans will be initialized from external properties file.")
    Script.forEach sources dataSourceBean

def documentDepth : Nat := 1

/-- The text that a script writes on an empty sheet. -/
def Script.text {α : Type} (x : Script α) (depth : Nat) : String :=
  (x.runOn (Sheet.empty depth)).render

/-- The data sources that a script declares on its own. -/
def Script.registered {α : Type} (x : Script α) : List DataSource :=
  (x.registerIn Registry.empty).sources

/-- The document of a cluster; with a near cache, that of a client node. -/
def clusterDocument (c : ClusterConfig) (clientNear : Option NearCacheConfig)
    (options : DocumentOptions) : Except Failure String :=
  let body := nodeBeans c clientNear
  match body.outcome with
  | .error e => .error e
  | .ok () =>
    .ok (documentHead options ++ (preamble options body.registered).text documentDepth ++
      body.text documentDepth ++ "</beans>\n")

def cacheDocument (c : CacheConfig) : Except Failure String :=
  let body := cacheBean c
  match body.outcome with
  | .error e => .error e
  | .ok () => .ok (body.text 0)

/-- The keys of a data source in the properties file, each without a value. -/
def secretStanza (s : DataSource) : String :=
  "# " ++ s.beanId ++ " (" ++ s.className ++ ")\n" ++
    s.beanId ++ ".jdbc.url=\n" ++
    s.beanId ++ ".jdbc.username=\n" ++
    s.beanId ++ ".jdbc.password=\n\n"

/-- The template of the properties file for the data sources of a cluster. -/
def secretProperties (c : ClusterConfig) : Except Failure String :=
  let body := nodeBeans c none
  match body.outcome with
  | .error e => .error e
  | .ok () =>
    let sources := body.registered
    .ok (if sources.isEmpty then "# No data sources are configured.\n"
      else String.join (sources.map secretStanza))

end GridBeans.Generation
