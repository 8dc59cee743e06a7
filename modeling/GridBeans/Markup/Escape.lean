/-!
# Escaping

Text that enters markup has its special characters replaced by predefined entities. An attribute
value is written between double quotes, so it loses ampersands and double quotes; a text node
loses ampersands and angle brackets.
-/
namespace GridBeans.Markup

/-- Every occurrence of one character replaced by a text. -/
def replaceChar (c : Char) (substitute : List Char) (cs : List Char) : List Char :=
  cs.flatMap fun x => if x = c then substitute else [x]

/-- The form of a text inside a double-quoted attribute value. Ampersands go first, so that those
of the entities written afterwards stay as they are. -/
def escapeAttributeChars (cs : List Char) : List Char :=
  replaceChar '"' "&quot;".toList (replaceChar '&' "&amp;".toList cs)

/-- The form of a text inside a text node. -/
def escapeTextChars (cs : List Char) : List Char :=
  replaceChar '>' "&gt;".toList
    (replaceChar '<' "&lt;".toList (replaceChar '&' "&amp;".toList cs))

def escapeAttribute (s : String) : String :=
  String.ofList (escapeAttributeChars s.toList)

def escapeText (s : String) : String :=
  String.ofList (escapeTextChars s.toList)

/-- The text of a comment: a hyphen directly after a hyphen is set off by a space, so that no two
hyphens meet before the end of the comment. The flag says whether a hyphen was just written. -/
def spaceHyphens : Bool → List Char → List Char
  | _, [] => []
  | afterHyphen, c :: rest =>
    if c = '-' && afterHyphen then ' ' :: c :: spaceHyphens true rest
    else c :: spaceHyphens (c = '-') rest

/-- A text as it stands in a comment. A space goes between any two hyphens that meet, so the comment
does not end early. -/
def commentText (s : String) : String :=
  String.ofList (spaceHyphens false s.toList)

theorem replaceChar_append (c : Char) (substitute xs ys : List Char) :
    replaceChar c substitute (xs ++ ys) =
      replaceChar c substitute xs ++ replaceChar c substitute ys := by
  simp [replaceChar]

end GridBeans.Markup
