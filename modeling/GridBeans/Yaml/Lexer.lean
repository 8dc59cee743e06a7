import GridBeans.Yaml.BlockScalar
import GridBeans.Yaml.FlowScalar
import GridBeans.Yaml.Property

/-!
# Tokens of a stream

`tokens?` divides a text into tokens, or gives nothing if the text is not well-formed. Whether a
scalar is a key is only known when a colon follows it, so tokens are only ever appended; the places
at which a key starts are noted beside them and spliced in at the end.
-/
namespace GridBeans.Yaml

/-- A token that may turn out to start a key. -/
structure PossibleKey where
  /-- The text is not well-formed unless this is a key. -/
  required : Bool
  /-- The number of tokens before it. -/
  token : Nat
  place : Place
  deriving Repr

structure Lexer where
  place : Place
  /-- The tokens so far, in reverse. -/
  tokens : List Token
  count : Nat
  /-- What is to be spliced in ahead of tokens, each with the number of tokens before it. -/
  splices : List (Nat × List Token)
  /-- A key may start here. -/
  keyAllowed : Bool
  /-- The possible key of each open pair of brackets, innermost first, and of the block. -/
  keys : List (Option PossibleKey)
  /-- The column of the innermost block, and of those around it; -1 outside all blocks. -/
  indent : Int
  outer : List Int
  deriving Repr

namespace Lexer

def start (text : List Char) : Lexer :=
  ⟨Place.start text, [], 0, [], true, [none], -1, []⟩

def inFlow (s : Lexer) : Bool :=
  match s.keys with
  | _ :: _ :: _ => true
  | _ => false

def append (s : Lexer) (t : Token) : Lexer :=
  { s with tokens := t :: s.tokens, count := s.count + 1 }

def moveTo (s : Lexer) (p : Place) (keyAllowed : Bool) : Lexer :=
  { s with place := p, keyAllowed := keyAllowed }

/-- The possible key of the innermost brackets. -/
def key? (s : Lexer) : Option PossibleKey :=
  s.keys.head?.join

def setKey (s : Lexer) (k : Option PossibleKey) : Lexer :=
  { s with keys := k :: s.keys.drop 1 }

/-- Gives up the possible key, which may not be a required one. -/
def dropKey (s : Lexer) : Option Lexer :=
  if s.key?.any (·.required) then none else some (s.setKey none)

/-- Remembers the next token as a possible key. -/
def noteKey (s : Lexer) : Option Lexer :=
  if s.keyAllowed then do
    let required := !s.inFlow && s.indent = s.place.column
    let s ← s.dropKey
    pure (s.setKey (some ⟨required, s.count, s.place⟩))
  else some s

/-- The possible key is on this line and at most 1024 bytes back. -/
def keyIsNear (s : Lexer) (k : PossibleKey) : Bool :=
  k.place.line == s.place.line && s.place.index ≤ k.place.index + 1024

/-- Opens a block at a column right of the innermost one: what has to be written ahead of it, and
the state in it. -/
def openBlock (s : Lexer) (column : Nat) (t : Token) : List Token × Lexer :=
  if !s.inFlow && s.indent < column then
    ([t], { s with indent := column, outer := s.indent :: s.outer })
  else ([], s)

def openHere (s : Lexer) (t : Token) : Lexer :=
  let (opened, s) := s.openBlock s.place.column t
  opened.foldl append s

/-- Closes blocks from the innermost one on, as long as they are right of a column. -/
def closeBlocks (column : Int) : List Int → Lexer → Lexer
  | [], s => s
  | next :: rest, s =>
    if column < s.indent then
      closeBlocks column rest { s.append .blockEnd with indent := next, outer := rest }
    else s

/-- Closes the blocks right of a column; brackets hide the columns of blocks. -/
def unindent (s : Lexer) (column : Int) : Lexer :=
  if s.inFlow then s else closeBlocks column s.outer s

/-- Passes blanks, comments, breaks and byte order marks up to the next token. Tabs count as blanks
only where no key may start. A break allows a key, outside brackets. -/
def skipGaps : Nat → Lexer → Lexer
  | 0, s => s
  | fuel + 1, s =>
    let tabs := s.inFlow || !s.keyAllowed
    let p := s.place.skipByteOrderMark
    let p := (p.skipWhile fun c => c = ' ' || (tabs && c = '\t')).skipComment
    match p.rest with
    | [] => s.moveTo p s.keyAllowed
    | c :: _ =>
      if isBreak c then skipGaps fuel (s.moveTo p.skipBreak (s.keyAllowed || !s.inFlow))
      else s.moveTo p s.keyAllowed

/-- The token at a place where no block goes on: the start or the end of a document, a directive. -/
def outsideBlocks (s : Lexer) : Option Lexer :=
  (s.unindent (-1)).dropKey

def openFlow (s : Lexer) (t : Token) : Option Lexer := do
  let s ← s.noteKey
  pure (({ s with keys := none :: s.keys }.moveTo (s.place.skip 1) true).append t)

def closeFlow (s : Lexer) (t : Token) : Option Lexer := do
  let s ← s.dropKey
  let keys := if s.inFlow then s.keys.drop 1 else s.keys
  pure (({ s with keys := keys }.moveTo (s.place.skip 1) false).append t)

def flowEntry (s : Lexer) : Option Lexer := do
  let s ← s.dropKey
  pure ((s.moveTo (s.place.skip 1) true).append .flowEntry)

def blockEntry (s : Lexer) : Option Lexer :=
  if !s.inFlow && !s.keyAllowed then none
  else do
    let s ← (s.openHere .blockSequenceStart).dropKey
    pure ((s.moveTo (s.place.skip 1) true).append .blockEntry)

def explicitKey (s : Lexer) : Option Lexer :=
  if !s.inFlow && !s.keyAllowed then none
  else do
    let s ← (s.openHere .blockMappingStart).dropKey
    pure ((s.moveTo (s.place.skip 1) (!s.inFlow)).append .key)

/-- A colon ahead of a value. The possible key, if it is near, turns out to be one. -/
def keyValue (s : Lexer) : Option Lexer :=
  match s.key? with
  | some k =>
    if s.keyIsNear k then
      let (opened, s) := s.openBlock k.place.column .blockMappingStart
      let s := { s with splices := (k.token, opened ++ [Token.key]) :: s.splices }
      some (((s.setKey none).moveTo (s.place.skip 1) false).append .value)
    else if k.required then none
    else bare (s.setKey none)
  | none => bare s
where
  /-- The colon follows no key on its line. -/
  bare (s : Lexer) : Option Lexer :=
    if !s.inFlow && !s.keyAllowed then none
    else
      let s := s.openHere .blockMappingStart
      some ((s.moveTo (s.place.skip 1) (!s.inFlow)).append .value)

/-- A token that may start a key, read from the current place. -/
def keyLike (s : Lexer) (read : Place → Option (Token × Place)) : Option Lexer := do
  let s ← s.noteKey
  let (t, p) ← read s.place
  pure ((s.moveTo p false).append t)

def quoted (s : Lexer) (single : Bool) : Option Lexer :=
  s.keyLike fun p => do
    let (text, p) ← quotedScalar single p
    pure (.scalar .other text, p)

/-- A plain scalar. If it ends behind a break, a key may start there. -/
def plain (s : Lexer) : Option Lexer := do
  let s ← s.noteKey
  let (text, p, broken) ← plainScalar s.inFlow s.indent s.place
  pure ((s.moveTo p broken).append (.scalar .plain text))

def block (s : Lexer) (folded : Bool) : Option Lexer := do
  let s ← s.dropKey
  let (text, p) ← blockScalar folded s.indent s.place
  pure ((s.moveTo p true).append (.scalar (if folded then .other else .literal) text))

def documentMark (s : Lexer) (t : Token) : Option Lexer := do
  let s ← s.outsideBlocks
  pure ((s.moveTo (s.place.skip 3) false).append t)

def directive (s : Lexer) : Option Lexer := do
  let s ← s.outsideBlocks
  let (t, p) ← readDirective s.place
  pure ((s.moveTo p false).append t)

/-- The characters that have a meaning of their own at the start of a token. -/
def isIndicator (c : Char) : Bool :=
  "-?:,[]\x7b\x7d#&*!|>'\"%@\x60".toList.contains c

/-- A plain scalar may start with this character. -/
def startsPlain (s : Lexer) (c : Char) (rest : List Char) : Bool :=
  !(isBlank c || isBreak c || isIndicator c) ||
    (c = '-' && !rest.head?.any isBlank) ||
    (!s.inFlow && (c = '?' || c = ':') && !atGap rest)

/-- The next token, whose first character is at the current place. -/
def fetch (s : Lexer) (c : Char) (rest : List Char) : Option Lexer :=
  let indicator := s.inFlow || atGap rest
  if s.place.column = 0 && c = '%' then s.directive
  else if s.place.atDocumentMark then
    s.documentMark (if c = '-' then .documentStart else .documentEnd)
  else if c = '[' then s.openFlow .flowSequenceStart
  else if c = '\x7b' then s.openFlow .flowMappingStart
  else if c = ']' then s.closeFlow .flowSequenceEnd
  else if c = '\x7d' then s.closeFlow .flowMappingEnd
  else if c = ',' then s.flowEntry
  else if c = '-' && atGap rest then s.blockEntry
  else if c = '?' && indicator then s.explicitKey
  else if c = ':' && indicator then s.keyValue
  else if c = '*' then s.keyLike fun p => (readName p).map fun (name, p) => (.reference name, p)
  else if c = '&' then s.keyLike fun p => (readName p).map fun (name, p) => (.anchor name, p)
  else if c = '!' then s.keyLike (readTag s.inFlow)
  else if c = '|' && !s.inFlow then s.block false
  else if c = '>' && !s.inFlow then s.block true
  else if c = '\'' then s.quoted true
  else if c = '"' then s.quoted false
  else if s.startsPlain c rest then s.plain
  else none

def run : Nat → Lexer → Option Lexer
  | 0, _ => none
  | fuel + 1, s =>
    let s := skipGaps (s.place.size + 1) s
    let s := s.unindent s.place.column
    match s.place.rest with
    | [] => s.outsideBlocks
    | c :: rest => do run fuel (← s.fetch c rest)

end Lexer

/-- Puts each splice ahead of the token that follows the given number of tokens. -/
def spliceFrom (position : Nat) (tokens : List Token) :
    List (Nat × List Token) → List Token
  | [] => tokens
  | (target, inserted) :: rest =>
    tokens.take (target - position) ++ inserted ++
      spliceFrom target (tokens.drop (target - position)) rest

/-- The tokens of a text; none if it is not well-formed. -/
def tokens? (text : List Char) : Option (List Token) := do
  if !text.all isAllowed then none
  let s ← Lexer.run (text.length + 2) (Lexer.start text)
  let splices := s.splices.mergeSort fun a b => a.1 ≤ b.1
  pure (spliceFrom 0 s.tokens.reverse splices)

end GridBeans.Yaml
