/-!
# Tags

A tag says what a node is. An escape in a tag stands for any byte, so a tag is a sequence of bytes
that need not be text, and ends ahead of its first zero byte.
-/
namespace GridBeans.Yaml

/-- A tag, or a part of one. -/
structure Tag where
  bytes : List UInt8
  deriving DecidableEq, Repr

namespace Tag

/-- The tag of bytes as they are written. -/
def ofBytes (bytes : List UInt8) : Tag :=
  ⟨bytes.takeWhile (· ≠ 0)⟩

def ofString (text : String) : Tag :=
  ofBytes text.toUTF8.data.toList

/-- What a handle stands for, ahead of the suffix. -/
def append (leading suffix : Tag) : Tag :=
  ⟨leading.bytes ++ suffix.bytes⟩

instance : Append Tag := ⟨append⟩

/-- The tag that stands alone: an exclamation mark. -/
def mark : Tag := ofString "!"

def core (type : String) : Tag :=
  ofString ("tag:yaml.org,2002:" ++ type)

/-- The name in a tag that starts with an exclamation mark: what follows the mark, or the mark if
nothing does. None if the name is no text. -/
def ownName? (t : Tag) : Option String :=
  match t.bytes with
  | [] => none
  | first :: rest =>
    if first = '!'.toUInt8 then
      String.fromUTF8? ⟨(if rest.isEmpty then [first] else rest).toArray⟩
    else none

end Tag

end GridBeans.Yaml
