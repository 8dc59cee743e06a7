import GridBeans.Markup.Escape

/-!
# Tags

What stands on one line of a document: a tag, an element with text, or a comment. An attribute
value remembers whether it is arbitrary text, which is escaped when it is written, or text that
is already in its written form, such as a number.
-/
namespace GridBeans.Markup

inductive AttributeValue where
  | plain (text : String)
  | written (text : String)
  deriving DecidableEq, Repr

structure Attribute where
  name : String
  value : AttributeValue
  deriving DecidableEq, Repr

inductive Piece where
  | startTag (element : String) (attributes : List Attribute)
  | emptyTag (element : String) (attributes : List Attribute)
  | endTag (element : String)
  /-- An element on one line, its content being text that is escaped when it is written. -/
  | leaf (element : String) (attributes : List Attribute) (text : String)
  | comment (text : String)
  /-- Text that is written as it is. -/
  | verbatim (text : String)
  deriving DecidableEq, Repr

def AttributeValue.render : AttributeValue → String
  | .plain text => escapeAttribute text
  | .written text => text

def Attribute.render (a : Attribute) : String :=
  " " ++ a.name ++ "=\"" ++ a.value.render ++ "\""

/-- The attributes of a tag, each after one space. -/
def renderAttributes (attributes : List Attribute) : String :=
  String.join (attributes.map Attribute.render)

def Piece.render : Piece → String
  | .startTag element attributes => "<" ++ element ++ renderAttributes attributes ++ ">"
  | .emptyTag element attributes => "<" ++ element ++ renderAttributes attributes ++ "/>"
  | .endTag element => "</" ++ element ++ ">"
  | .leaf element attributes text =>
    "<" ++ element ++ renderAttributes attributes ++ ">" ++ escapeText text ++
      "</" ++ element ++ ">"
  | .comment text => "<!-- " ++ text ++ " -->"
  | .verbatim text => text

end GridBeans.Markup
