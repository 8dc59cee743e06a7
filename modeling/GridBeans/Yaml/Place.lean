import GridBeans.Yaml.Character

/-!
# Places in a text

A place is the rest of a text with the number of bytes, lines and columns before it, and the size
of the whole text, which bounds the number of steps that any reading takes. Bytes are those of
UTF-8; a column is a character.
-/
namespace GridBeans.Yaml

def byteCount (cs : List Char) : Nat :=
  cs.foldl (fun n c => n + c.utf8Size) 0

structure Place where
  /-- The number of characters of the whole text. -/
  size : Nat
  rest : List Char
  /-- The number of bytes before this place. -/
  index : Nat
  line : Nat
  column : Nat
  deriving DecidableEq, Repr

namespace Place

def start (text : List Char) : Place := ⟨text.length, text, 0, 0, 0⟩

/-- The place a number of characters further on the same line. -/
def skip (p : Place) (count : Nat) : Place :=
  ⟨p.size, p.rest.drop count, p.index + byteCount (p.rest.take count), p.line, p.column + count⟩

/-- The place behind a break; a carriage return and a line feed are one. -/
def skipBreak (p : Place) : Place :=
  match p.rest with
  | '\r' :: '\n' :: rest => ⟨p.size, rest, p.index + 2, p.line + 1, 0⟩
  | c :: rest => ⟨p.size, rest, p.index + c.utf8Size, p.line + 1, 0⟩
  | [] => p

/-- The break at a place as it enters a scalar: a line feed, except for the two separators, which
stay as they are. Nothing where there is no break. -/
def breakText (p : Place) : List Char :=
  match p.rest with
  | c :: _ =>
    if c = '\u2028' || c = '\u2029' then [c]
    else if isBreak c then ['\n']
    else []
  | [] => []

def skipWhile (p : Place) (test : Char → Bool) : Place :=
  p.skip (p.rest.takeWhile test).length

/-- The place behind a byte order mark, if one starts the line. -/
def skipByteOrderMark (p : Place) : Place :=
  if p.column = 0 && p.rest.head? = some '\ufeff' then p.skip 1 else p

/-- The place at the end of the line if a comment starts here. -/
def skipComment (p : Place) : Place :=
  match p.rest with
  | '#' :: _ => p.skipWhile fun c => !isBreak c
  | _ => p

/-- The text at a place starts with a document mark at the start of a line. -/
def atDocumentMark (p : Place) : Bool :=
  p.column == 0 && Yaml.atDocumentMark p.rest

end Place

end GridBeans.Yaml
