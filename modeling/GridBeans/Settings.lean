import GridBeans.Generation.Document
import GridBeans.Text.Blank

/-!
# Settings

The options of the documents, from an environment of named values. A value that is unset or blank
leaves the default.
-/
namespace GridBeans

open GridBeans.Generation

def propertiesLocationKey : String := "GRIDGEN_PROPERTIES_LOCATION"

def headerCommentKey : String := "GRIDGEN_HEADER_COMMENT"

/-- The value of a variable, or the default if it is not set or blank. -/
def settingOr (value : Option String) (default : String) : String :=
  if Text.isBlankOrAbsent value then default else value.getD default

/-- The options that an environment asks for. -/
def settingsOf (lookup : String → Option String) : DocumentOptions :=
  ⟨settingOr (lookup propertiesLocationKey) DocumentOptions.default.propertiesLocation,
    settingOr (lookup headerCommentKey) DocumentOptions.default.headerComment⟩

end GridBeans
