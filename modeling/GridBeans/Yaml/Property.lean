import GridBeans.Text.Digits
import GridBeans.Yaml.Place
import GridBeans.Yaml.Token

/-!
# Anchors, tags and directives

The marks that go ahead of a node, and the lines that go ahead of a document.
-/
namespace GridBeans.Yaml

/-- The characters that may follow a name of an anchor besides blanks and breaks. -/
def endsName (cs : List Char) : Bool :=
  atGap cs || cs.head?.any fun c =>
    c = '?' || c = ':' || c = ',' || c = ']' || c = '\x7d' || c = '%' || c = '@' || c = '\x60'

/-- The name behind the indicator of an anchor or of a reference to one. -/
def readName (p : Place) : Option (String × Place) :=
  let p := p.skip 1
  let name := p.rest.takeWhile isNameChar
  let p := p.skip name.length
  if name.isEmpty || !endsName p.rest then none
  else some (String.ofList name, p)

/-- The characters of a tag besides those of names and escapes. -/
def isTagChar (verbatim : Bool) (c : Char) : Bool :=
  isNameChar c || ";/?:@&=+$.!~*'()".toList.contains c ||
    (verbatim && (c = ',' || c = '[' || c = ']'))

def escapedByte? : List Char → Option Nat
  | '%' :: a :: b :: _ => Text.number? 16 [a, b]
  | _ => none

/-- The number of bytes of a character by its first one. -/
def characterLength? (first : Nat) : Option Nat :=
  if first < 0x80 then some 1
  else if first / 0x20 = 6 then some 2
  else if first / 0x10 = 14 then some 3
  else if first / 8 = 30 then some 4
  else none

/-- The escaped bytes that follow the first one of a character. -/
def moreBytes : Nat → List Char → Option (List UInt8)
  | 0, _ => some []
  | count + 1, cs => do
    let byte ← escapedByte? cs
    if byte / 0x40 ≠ 2 then none
    pure (byte.toUInt8 :: (← moreBytes count (cs.drop 3)))

/-- The bytes of an escaped character. Only their number and their leading bits have to fit, so
they need not be those of a character. -/
def escapedBytes (cs : List Char) : Option (List UInt8) := do
  let first ← escapedByte? cs
  let length ← characterLength? first
  pure (first.toUInt8 :: (← moreBytes (length - 1) (cs.drop 3)))

/-- Reads the bytes that the characters of a tag stand for, after those read already, which are in
reverse. -/
def readTagChars (verbatim : Bool) : Nat → List UInt8 → Place → Option (List UInt8 × Place)
  | 0, _, _ => none
  | fuel + 1, read, p =>
    match p.rest with
    | [] => some (read.reverse, p)
    | c :: rest =>
      if c = '%' then
        match escapedBytes (c :: rest) with
        | some bytes =>
          readTagChars verbatim fuel (bytes.reverse ++ read) (p.skip (3 * bytes.length))
        | none => none
      else if isTagChar verbatim c then
        readTagChars verbatim fuel (c.toUInt8 :: read) (p.skip 1)
      else some (read.reverse, p)

/-- The tag that the characters at a place spell behind a leading text, and the place behind
them. -/
def tagChars (verbatim : Bool) (leading : List Char) (p : Place) : Option (Tag × Place) := do
  let (bytes, p) ← readTagChars verbatim (p.size + 1) (leading.map Char.toUInt8).reverse p
  pure (Tag.ofBytes bytes, p)

/-- The same for at least one character and no leading text. -/
def someTagChars (verbatim : Bool) (p : Place) : Option (Tag × Place) := do
  let (tag, after) ← tagChars verbatim [] p
  if after.index = p.index then none
  pure (tag, after)

/-- The handle of a tag: an exclamation mark, and perhaps a name and another one. -/
def tagHandle (p : Place) : Option (List Char × Place) :=
  match p.rest with
  | '!' :: rest =>
    let name := rest.takeWhile isNameChar
    let p := p.skip (1 + name.length)
    match p.rest with
    | '!' :: _ => some ('!' :: name ++ ['!'], p.skip 1)
    | _ => some ('!' :: name, p)
  | _ => none

def readTag (inFlow : Bool) (p : Place) : Option (Token × Place) := do
  let (token, p) ←
    if p.rest[1]? = some '<' then do
      let (suffix, p) ← someTagChars true (p.skip 2)
      if p.rest.head? ≠ some '>' then none
      pure (Token.tag "" suffix, p.skip 1)
    else do
      let (handle, p) ← tagHandle p
      if 1 < handle.length && handle.getLast? = some '!' then do
        let (suffix, p) ← someTagChars false p
        pure (Token.tag (String.ofList handle) suffix, p)
      else do
        let (suffix, p) ← tagChars false (handle.drop 1) p
        pure (if suffix.bytes.isEmpty then Token.tag "" Tag.mark else Token.tag "!" suffix, p)
  if atGap p.rest || (inFlow && p.rest.head? = some ',') then pure (token, p) else none

/-- The number of a version at a place, of at most nine digits. -/
def versionNumber (p : Place) : Option (Nat × Place) :=
  let digits := p.rest.takeWhile Char.isDigit
  if 9 < digits.length then none
  else (Text.number? 10 digits).map fun number => (number, p.skip digits.length)

def versionDirective (p : Place) : Option (Token × Place) := do
  let (major, p) ← versionNumber (p.skipWhile isBlank)
  if p.rest.head? ≠ some '.' then none
  let (minor, p) ← versionNumber (p.skip 1)
  pure (.versionDirective major minor, p)

def tagDirective (p : Place) : Option (Token × Place) := do
  let (handle, p) ← tagHandle (p.skipWhile isBlank)
  if handle ≠ ['!'] && (handle.length < 2 || handle.getLast? ≠ some '!') then none
  if !p.rest.head?.any isBlank then none
  let (leading, p) ← someTagChars true (p.skipWhile isBlank)
  if !atGap p.rest then none
  pure (.tagDirective (String.ofList handle) leading, p)

/-- The directive at a place, with the rest of its line. -/
def readDirective (p : Place) : Option (Token × Place) := do
  let p := p.skip 1
  let name := p.rest.takeWhile isNameChar
  let p := p.skip name.length
  if !atGap p.rest then none
  let (token, p) ←
    if name = "YAML".toList then versionDirective p
    else if name = "TAG".toList then tagDirective p
    else none
  let p := (p.skipWhile isBlank).skipComment
  if !atBreak p.rest then none
  pure (token, p.skipBreak)

end GridBeans.Yaml
