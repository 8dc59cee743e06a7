import GridBeans.Json.Value
import GridBeans.Text.Digits

/-!
# JSON tokens

The tokens of a text that may stop being JSON at any point. `scan` gives the tokens up to that
point and then one `bad` token. A string token keeps its text, or nothing if it names half of a
surrogate pair alone: such a string is well-formed but stands for no text.
-/
namespace GridBeans.Json

inductive Token where
  | openArray | closeArray | openObject | closeObject | comma | colon
  | null
  | bool (value : Bool)
  | number (literal : Literal)
  | string (text : Option String)
  | bad
  deriving DecidableEq, Repr

def isSpace (c : Char) : Bool :=
  c = ' ' || c = '\n' || c = '\t' || c = '\r'

/-- One element of a string's body: a character, or a unit of sixteen bits. -/
inductive StringPart where
  | char (c : Char)
  | code (value : Nat)
  deriving DecidableEq, Repr

/-- The character that a backslash and a letter stand for. -/
def simpleEscape? (c : Char) : Option Char :=
  if c = '"' || c = '\\' || c = '/' then some c
  else if c = 'b' then some (Char.ofNat 8)
  else if c = 'f' then some (Char.ofNat 12)
  else if c = 'n' then some '\n'
  else if c = 'r' then some '\r'
  else if c = 't' then some '\t'
  else none

/-- The parts of a string's body after its opening quote, and the text after its closing one. -/
def readString : List Char → List StringPart → Option (List StringPart × List Char)
  | [], _ => none
  | '"' :: rest, parts => some (parts.reverse, rest)
  | '\\' :: 'u' :: a :: b :: c :: d :: rest, parts =>
    match Text.number? 16 [a, b, c, d] with
    | some value => readString rest (.code value :: parts)
    | none => none
  | '\\' :: e :: rest, parts =>
    match simpleEscape? e with
    | some c => readString rest (.char c :: parts)
    | none => none
  | c :: rest, parts => if c.toNat < 32 then none else readString rest (.char c :: parts)

def isHighSurrogate (value : Nat) : Bool :=
  0xD800 ≤ value && value ≤ 0xDBFF

def isLowSurrogate (value : Nat) : Bool :=
  0xDC00 ≤ value && value ≤ 0xDFFF

/-- The characters of a string's parts; none if half of a surrogate pair stands alone. -/
def joinParts : List StringPart → Option (List Char)
  | [] => some []
  | .char c :: rest => (joinParts rest).map (c :: ·)
  | .code high :: .code low :: rest =>
    if isHighSurrogate high then
      if isLowSurrogate low then
        (joinParts rest).map
          (Char.ofNat (0x10000 + (high - 0xD800) * 0x400 + (low - 0xDC00)) :: ·)
      else none
    else if isLowSurrogate high then none
    else (joinParts (.code low :: rest)).map (Char.ofNat high :: ·)
  | .code value :: rest =>
    if isHighSurrogate value || isLowSurrogate value then none
    else (joinParts rest).map (Char.ofNat value :: ·)

/-- The values of the leading digits, and the text after them. -/
def readDigits (cs : List Char) : List Nat × List Char :=
  ((cs.takeWhile Char.isDigit).map fun c => c.toNat - 48, cs.dropWhile Char.isDigit)

/-- The digits before the point: a zero stands alone. -/
def readWhole (cs : List Char) : Option (List Nat × List Char) :=
  match readDigits cs with
  | ([], _) => none
  | (0 :: _ :: _, _) => none
  | digits => some digits

/-- The digits after a point, none if there is no point; a point needs a digit after it. -/
def readFraction : List Char → Option (List Nat × List Char)
  | '.' :: rest =>
    match readDigits rest with
    | ([], _) => none
    | digits => some digits
  | rest => some ([], rest)

/-- The digits of an exponent, with whether its sign is a minus. -/
def readExponentDigits (negative : Bool) (cs : List Char) :
    Option (Option (Bool × List Nat) × List Char) :=
  match readDigits cs with
  | ([], _) => none
  | (digits, rest) => some (some (negative, digits), rest)

def readExponent : List Char → Option (Option (Bool × List Nat) × List Char)
  | c :: rest =>
    if c = 'e' || c = 'E' then
      match rest with
      | '+' :: after => readExponentDigits false after
      | '-' :: after => readExponentDigits true after
      | after => readExponentDigits false after
    else some (none, c :: rest)
  | [] => some (none, [])

def readNumber (cs : List Char) : Option (Literal × List Char) := do
  let (negative, cs) := match cs with
    | '-' :: rest => (true, rest)
    | rest => (false, rest)
  let (whole, cs) ← readWhole cs
  let (fraction, cs) ← readFraction cs
  let (exponent, cs) ← readExponent cs
  pure (⟨negative, whole, fraction, exponent⟩, cs)

/-- The token at the start of a text that is not empty, and the text after it. -/
def readToken (c : Char) (rest : List Char) : Token × List Char :=
  match c with
  | '[' => (.openArray, rest)
  | ']' => (.closeArray, rest)
  | '\x7b' => (.openObject, rest)
  | '\x7d' => (.closeObject, rest)
  | ',' => (.comma, rest)
  | ':' => (.colon, rest)
  | '"' =>
    match readString rest [] with
    | some (parts, after) => (.string ((joinParts parts).map String.ofList), after)
    | none => (.bad, [])
  | 'n' =>
    if rest.take 3 = ['u', 'l', 'l'] then (.null, rest.drop 3) else (.bad, [])
  | 't' =>
    if rest.take 3 = ['r', 'u', 'e'] then (.bool true, rest.drop 3) else (.bad, [])
  | 'f' =>
    if rest.take 4 = ['a', 'l', 's', 'e'] then (.bool false, rest.drop 4) else (.bad, [])
  | c =>
    match readNumber (c :: rest) with
    | some (literal, after) => (.number literal, after)
    | none => (.bad, [])

/-- The tokens of a text, at most as many as the count says. -/
def scanSome : Nat → List Char → List Token
  | 0, _ => []
  | count + 1, cs =>
    match cs.dropWhile isSpace with
    | [] => []
    | c :: rest =>
      let (token, after) := readToken c rest
      token :: scanSome count after

/-- The tokens of a text. Every token takes at least one character. -/
def scan (cs : List Char) : List Token :=
  scanSome cs.length cs

end GridBeans.Json
