import GridBeans.Json.Number
import GridBeans.Text.Quoted

/-!
# Faults of a document

Why a document does not describe what it should. Only `malformed` has no text of its own: it
stands for a text that does not follow its format at all.
-/
namespace GridBeans.Document

open GridBeans.Json (Number)

/-- What kind of value was found where another was expected. -/
inductive Found where
  | null
  | bool (value : Bool)
  | number (value : Number)
  | string (text : String)
  | sequence
  | map
  deriving DecidableEq, Repr

inductive Expected where
  | integer
  | double
  | bool
  | string
  | sequence
  | unit
  | record (name : String)
  | choice
  | singleMember
  deriving DecidableEq, Repr

inductive Fault where
  | invalidType (found : Found) (expected : Expected)
  | invalidValue (found : Found) (expected : Expected)
  /-- A record written as a list ends before one of its fields. -/
  | shortRecord (length : Nat) (record : String) (fields : Nat)
  /-- A list is longer than what it is read as. -/
  | longList (length : Nat)
  | unknownChoice (name : String) (known : List String)
  | missingField (name : String)
  | duplicateField (name : String)
  | malformed
  deriving DecidableEq, Repr

def Expected.message : Expected → String
  | .integer => "i64"
  | .double => "f64"
  | .bool => "a boolean"
  | .string => "a string"
  | .sequence => "a sequence"
  | .unit => "unit"
  | .record name => "struct " ++ name
  | .choice => "string or map"
  | .singleMember => "map with a single key"

def ticked (name : String) : String :=
  "`" ++ name ++ "`"

def foundMessage : Found → String
  | .null => "null"
  | .bool value => "boolean " ++ ticked (if value then "true" else "false")
  | .number (.integer value) => "integer " ++ ticked (toString value)
  | .number (.double value) => "floating point " ++ ticked (Number.double value).render
  | .string text => "string " ++ Text.quoted text
  | .sequence => "sequence"
  | .map => "map"

/-- The names that a choice allows. -/
def choiceMessage : List String → String
  | [] => "there are no variants"
  | [a] => "expected " ++ ticked a
  | [a, b] => "expected " ++ ticked a ++ " or " ++ ticked b
  | names => "expected one of " ++ ", ".intercalate (names.map ticked)

def Fault.message : Fault → String
  | .invalidType found expected =>
    "invalid type: " ++ foundMessage found ++ ", expected " ++ expected.message
  | .invalidValue found expected =>
    "invalid value: " ++ foundMessage found ++ ", expected " ++ expected.message
  | .shortRecord length record fields =>
    "invalid length " ++ toString length ++ ", expected struct " ++ record ++ " with " ++
      toString fields ++ (if fields = 1 then " element" else " elements")
  | .longList length =>
    "invalid length " ++ toString length ++ ", expected fewer elements in array"
  | .unknownChoice name known =>
    "unknown variant " ++ ticked name ++ ", " ++ choiceMessage known
  | .missingField name => "missing field " ++ ticked name
  | .duplicateField name => "duplicate field " ++ ticked name
  | .malformed => "malformed document"

end GridBeans.Document
