/-!
# Blank text

The characters with the Unicode property `White_Space`, and the texts made of nothing else. A
setting or a required field that holds only such characters counts as not given.
-/
namespace GridBeans.Text

/-- The characters with the property `White_Space`. -/
def isBlankChar (c : Char) : Bool :=
  let n := c.toNat
  (9 ≤ n && n ≤ 13) || n == 0x20 || n == 0x85 || n == 0xA0 || n == 0x1680 ||
    (0x2000 ≤ n && n ≤ 0x200A) || n == 0x2028 || n == 0x2029 || n == 0x202F || n == 0x205F ||
    n == 0x3000

/-- Every character of the text is blank; so is the empty text. -/
def isBlank (s : String) : Bool :=
  s.toList.all isBlankChar

/-- The text from its first character that is not blank. -/
def trimStart (cs : List Char) : List Char :=
  cs.dropWhile isBlankChar

/-- An absent text is blank too. -/
def isBlankOrAbsent : Option String → Bool
  | none => true
  | some s => isBlank s

/-- The text, unless it is absent or empty. -/
def nonEmpty? : Option String → Option String
  | none => none
  | some s => if s.isEmpty then none else some s

end GridBeans.Text
