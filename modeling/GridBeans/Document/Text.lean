import GridBeans.Document.Json
import GridBeans.Document.Yaml
import GridBeans.Text.Blank

/-!
# Documents as texts

A text that starts with a brace, blanks aside, is JSON; any other text is YAML.
-/
namespace GridBeans.Document

/-- A type that can be read from every format. -/
class Readable (α : Type) where
  codec : {ν : Type} → [Source ν] → Codec ν α

/-- Why a text is not a document of the wanted type. -/
inductive Rejection where
  | json (fault : Fault)
  | yaml
  deriving DecidableEq, Repr

/-- What is said of a rejected text, which is named by its parameter. -/
def Rejection.message (parameter : String) : Rejection → String
  | .json .malformed => parameter ++ " invalid JSON"
  | .json fault => parameter ++ " invalid JSON: " ++ fault.message
  | .yaml => parameter ++ " invalid YAML"

def isJson (text : String) : Bool :=
  (Text.trimStart text.toList).head? = some '\x7b'

/-- Reads a text in the format it is written in. -/
def readText (α : Type) [Readable α] (text : String) : Except Rejection α :=
  if isJson text then
    match readJsonText (Readable.codec (α := α)) text with
    | .ok a => .ok a
    | .error fault => .error (.json fault)
  else
    match readYamlText (Readable.codec (α := α)) text with
    | .ok a => .ok a
    | .error _ => .error .yaml

end GridBeans.Document
