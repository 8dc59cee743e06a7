import GridBeans.Yaml.Lexer

/-!
# Nodes of a document

What the tokens of a stream with at most one document say. Tags count on scalars only. A reference
names an anchored node by number; the numbers of anchors are the numbers of anchor names known
before each, so an anchor name that is used again may share its number with a later one, and then
the node that starts last is meant.
-/
namespace GridBeans.Yaml

inductive Node where
  | scalar (style : Style) (tag : Option Tag) (text : String)
  | sequence (items : List Node)
  | mapping (entries : List (Node × Node))
  | reference (anchor : Nat)
  deriving Repr

mutual

/-- The number of starts and ends of nodes in a node. A scalar or a reference counts once, a list or
a mapping twice beside what is in it. -/
def Node.events : Node → Nat
  | .scalar .. | .reference _ => 1
  | .sequence items => 2 + itemEvents items
  | .mapping entries => 2 + entryEvents entries

def itemEvents : List Node → Nat
  | [] => 0
  | item :: rest => item.events + itemEvents rest

def entryEvents : List (Node × Node) → Nat
  | [] => 0
  | (key, value) :: rest => key.events + value.events + entryEvents rest

end

/-- An anchored node, with the number of its anchor and its place among the anchored nodes. -/
structure Anchored where
  anchor : Nat
  order : Nat
  node : Node
  deriving Repr

/-- A document: its root, none if the stream is empty, and the anchored nodes. -/
structure Document where
  root : Option Node
  anchored : List Anchored
  deriving Repr

/-- The number of starts and ends of nodes; an empty stream counts once. -/
def Document.events (d : Document) : Nat :=
  d.root.elim 1 Node.events

/-- The anchored node that a reference means. -/
def Document.target? (d : Document) (anchor : Nat) : Option Node :=
  let named := d.anchored.filter (·.anchor == anchor)
  (named.foldl (fun (best : Option Anchored) a =>
    match best with
    | some b => if b.order < a.order then some a else some b
    | none => some a) none).map (·.node)

/-- A node itself, or the one that it refers to. -/
def Document.resolve? (d : Document) : Node → Option Node
  | .reference anchor => d.target? anchor
  | node => some node

structure Parse where
  tokens : List Token
  /-- The numbers of anchor names. -/
  names : List (String × Nat)
  anchored : List Anchored
  /-- The number of anchored nodes that have been started. -/
  started : Nat
  /-- What the handles of tags stand for. -/
  handles : List (String × Tag)
  deriving Repr

abbrev Parser := StateT Parse Option

/-- An empty plain scalar, where a node is left out. -/
def emptyNode : Node := .scalar .plain none ""

def peek? : Parser (Option Token) := do
  pure (← get).tokens.head?

def skipToken : Parser Unit :=
  modify fun s => { s with tokens := s.tokens.drop 1 }

def accept (t : Token) : Parser Bool := do
  if (← peek?) = some t then
    skipToken
    pure true
  else pure false

/-- Takes the token, which has to be the next one. -/
def expect (t : Token) : Parser Unit := do
  if ← accept t then pure () else failure

/-- The next token is one of these, or there is none. -/
def nextIn (ts : List Token) : Parser Bool := do
  match ← peek? with
  | some t => pure (ts.contains t)
  | none => pure true

/-- The number of an anchor; it is known from here on. -/
def beginAnchor (name : String) : Parser (Nat × Nat) := do
  let s ← get
  let known := s.names.filter (·.1 != name)
  set { s with names := (name, s.names.length) :: known, started := s.started + 1 }
  pure (s.names.length, s.started)

/-- Remembers an anchored node. -/
def endAnchor (anchor : Option (Nat × Nat)) (node : Node) : Parser Unit :=
  match anchor with
  | some (number, order) =>
    modify fun s => { s with anchored := ⟨number, order, node⟩ :: s.anchored }
  | none => pure ()

/-- The full form of a tag. -/
def resolveTag (handle : String) (suffix : Tag) : Parser Tag := do
  if handle = "" then pure suffix
  else
    match (← get).handles.lookup handle with
    | some leading => pure (leading ++ suffix)
    | none => failure

def tag? : Parser (Option Tag) := do
  match ← peek? with
  | some (.tag handle suffix) => do
    skipToken
    some <$> resolveTag handle suffix
  | _ => pure none

/-- The name of the anchor, if one is next; it is not known yet. -/
def anchorName? : Parser (Option String) := do
  match ← peek? with
  | some (.anchor name) => do
    skipToken
    pure (some name)
  | _ => pure none

/-- The tokens before which a node of a block mapping may be left out. -/
def afterBlockKey : List Token := [.key, .value, .blockEnd]

mutual

/-- The node at the next token. Blocks may be excluded, and so may the items of a block sequence
that is not indented. -/
def node (block indentless : Bool) : Nat → Parser Node
  | 0 => failure
  | fuel + 1 => do
    match ← peek? with
    | some (.reference name) => do
      skipToken
      match (← get).names.lookup name with
      | some number => pure (.reference number)
      | none => failure
    | _ => do
      let first ← anchorName?
      let tag ← tag?
      let second ← if first.isNone then anchorName? else pure none
      let name := first.or second
      let anchor ← match name with
        | some name => some <$> beginAnchor name
        | none => pure none
      let result ← content block indentless (name.isSome || tag.isSome) tag fuel
      endAnchor anchor result
      pure result

/-- The node without its anchor and its tag; with one of them it may be left out. -/
def content (block indentless marked : Bool) (tag : Option Tag) : Nat → Parser Node
  | 0 => failure
  | fuel + 1 => do
    match ← peek? with
    | some .blockEntry =>
      if indentless then .sequence <$> indentlessItems fuel
      else leftOut marked tag
    | some (.scalar style text) => do
      skipToken
      pure (.scalar style tag text)
    | some .flowSequenceStart => do
      skipToken
      .sequence <$> flowItems true fuel
    | some .flowMappingStart => do
      skipToken
      .mapping <$> flowEntries true fuel
    | some .blockSequenceStart =>
      if block then do
        skipToken
        .sequence <$> blockItems fuel
      else leftOut marked tag
    | some .blockMappingStart =>
      if block then do
        skipToken
        .mapping <$> blockEntries fuel
      else leftOut marked tag
    | _ => leftOut marked tag

/-- A node of which only an anchor or a tag is given. -/
def leftOut (marked : Bool) (tag : Option Tag) : Parser Node :=
  if marked then pure (.scalar .plain tag "") else failure

def blockItems : Nat → Parser (List Node)
  | 0 => failure
  | fuel + 1 => do
    if ← accept .blockEnd then pure []
    else do
      expect .blockEntry
      let item ← if ← nextIn [.blockEntry, .blockEnd] then pure emptyNode
        else node true false fuel
      pure (item :: (← blockItems fuel))

/-- The items of a block sequence at the column of the mapping around it. -/
def indentlessItems : Nat → Parser (List Node)
  | 0 => failure
  | fuel + 1 => do
    if ← accept .blockEntry then do
      let item ← if ← nextIn [.blockEntry, .key, .value, .blockEnd] then pure emptyNode
        else node true false fuel
      pure (item :: (← indentlessItems fuel))
    else pure []

def blockEntries : Nat → Parser (List (Node × Node))
  | 0 => failure
  | fuel + 1 => do
    if ← accept .blockEnd then pure []
    else do
      expect .key
      let key ← if ← nextIn afterBlockKey then pure emptyNode else node true true fuel
      let value ← if ← accept .value then
          (do if ← nextIn afterBlockKey then pure emptyNode else node true true fuel)
        else pure emptyNode
      pure ((key, value) :: (← blockEntries fuel))

/-- The items of a sequence in brackets. A key among them makes an item that is a mapping. -/
def flowItems (first : Bool) : Nat → Parser (List Node)
  | 0 => failure
  | fuel + 1 => do
    if ← accept .flowSequenceEnd then pure []
    else do
      if !first then expect .flowEntry
      if ← accept .flowSequenceEnd then pure []
      else do
        let item ← if ← accept .key then flowPair fuel else node false false fuel
        pure (item :: (← flowItems false fuel))

/-- The mapping of one entry that is an item of a sequence in brackets. -/
def flowPair : Nat → Parser Node
  | 0 => failure
  | fuel + 1 => do
    let key ← if ← nextIn [.value, .flowEntry, .flowSequenceEnd] then do
        skipToken
        pure emptyNode
      else node false false fuel
    let value ← if ← accept .value then
        (do if ← nextIn [.flowEntry, .flowSequenceEnd] then pure emptyNode
            else node false false fuel)
      else pure emptyNode
    pure (.mapping [(key, value)])

def flowEntries (first : Bool) : Nat → Parser (List (Node × Node))
  | 0 => failure
  | fuel + 1 => do
    if ← accept .flowMappingEnd then pure []
    else do
      if !first then expect .flowEntry
      if ← accept .flowMappingEnd then pure []
      else do
        let entry ← if ← accept .key then flowEntry fuel
          else (do pure (← node false false fuel, emptyNode))
        pure (entry :: (← flowEntries false fuel))

/-- An entry of a mapping in braces, behind the start of its key. -/
def flowEntry : Nat → Parser (Node × Node)
  | 0 => failure
  | fuel + 1 => do
    let key ← if ← nextIn [.value, .flowEntry, .flowMappingEnd] then pure emptyNode
      else node false false fuel
    let value ← if ← accept .value then
        (do if ← nextIn [.flowEntry, .flowMappingEnd] then pure emptyNode
            else node false false fuel)
      else pure emptyNode
    pure (key, value)

end

/-- What handles stand for without any directive. -/
def standardHandles : List (String × Tag) :=
  [("!", .mark), ("!!", .core "")]

/-- Reads the directives ahead of a document: at most one version, and no handle twice. -/
def directives (version : Bool) (handles : List (String × Tag)) :
    Nat → Parser (List (String × Tag))
  | 0 => failure
  | fuel + 1 => do
    match ← peek? with
    | some (.versionDirective major minor) =>
      if version || major ≠ 1 || (minor ≠ 1 && minor ≠ 2) then failure
      else do
        skipToken
        directives true handles fuel
    | some (.tagDirective handle leading) =>
      if handles.any (·.1 == handle) then failure
      else do
        skipToken
        directives version ((handle, leading) :: handles) fuel
    | _ => pure handles

/-- The tokens at which no content of a document stands. -/
def endsContent : Option Token → Bool
  | none | some .documentStart | some .documentEnd => true
  | some (.versionDirective ..) | some (.tagDirective ..) => true
  | _ => false

/-- Passes the marks at the end of a document. -/
def documentEnds : Nat → Parser Unit
  | 0 => pure ()
  | fuel + 1 => do
    if ← accept .documentEnd then documentEnds fuel else pure ()

/-- The root of the only document; none for a stream without one. -/
def rootNode (fuel : Nat) : Parser (Option Node) := do
  match ← peek? with
  | none => pure none
  | some .documentStart | some (.versionDirective ..) | some (.tagDirective ..) => do
    let handles ← directives false [] fuel
    modify fun s => { s with handles := handles ++ standardHandles }
    expect .documentStart
    let root ← if endsContent (← peek?) then pure emptyNode else node true false fuel
    pure (some root)
  | some _ => some <$> node true false fuel

/-- The document of a stream of tokens; none if it has several or is not well-formed. -/
def Document.ofTokens? (tokens : List Token) : Option Document := do
  let fuel := 4 * tokens.length + 10
  let read : Parser (Option Node) := do
    let root ← rootNode fuel
    documentEnds fuel
    pure root
  let (root, s) ← read.run ⟨tokens, [], [], 0, standardHandles⟩
  if s.tokens.isEmpty then pure ⟨root, s.anchored⟩ else none

def Document.ofText? (text : String) : Option Document := do
  Document.ofTokens? (← tokens? text.toList)

end GridBeans.Yaml
