import GridBeans.Json.Token

/-!
# JSON drafts

What a text says as far as it is JSON. Everything that can be read before the text breaks is in
the tree, in the order of the text, so a reader that looks for certain members finds out what is
wrong first: a member that does not fit, or the break.
-/
namespace GridBeans.Json

/-- A value of a text, as far as it can be read. -/
inductive Tree where
  | null
  | bool (value : Bool)
  /-- A number, or none if its magnitude exceeds every double. -/
  | number (value : Option Number)
  /-- A string, or none if it stands for no text. -/
  | string (text : Option String)
  | array (items : List Tree) (closed : Bool)
  /-- An object; a name is none if it stands for no text. -/
  | object (members : List (Option String × Tree)) (closed : Bool)
  /-- No value can be read here. -/
  | broken
  deriving Repr

/-- The value of a text, and whether more text follows it. -/
structure Draft where
  tree : Tree
  trailing : Bool
  deriving Repr

/-- A container that is still open around the one being read. Items and members are in reverse. -/
inductive Frame where
  | list (items : List Tree)
  | record (members : List (Option String × Tree)) (name : Option String)
  deriving Repr

/-- What has been read of the innermost container, and so what may come next. -/
inductive Place where
  | top
  | firstItem
  | nextItem (items : List Tree)
  | afterItem (items : List Tree)
  | firstName
  | nextName (members : List (Option String × Tree))
  | colon (members : List (Option String × Tree)) (name : Option String)
  | memberValue (members : List (Option String × Tree)) (name : Option String)
  | afterMember (members : List (Option String × Tree))
  deriving Repr

/-- The tree of open containers around a value at which the text breaks. -/
def closeFrames : Tree → List Frame → Tree
  | inner, [] => inner
  | inner, .list items :: frames => closeFrames (.array (inner :: items).reverse false) frames
  | inner, .record members name :: frames =>
    closeFrames (.object ((name, inner) :: members).reverse false) frames

/-- The innermost container at a place where the text breaks. -/
def Place.cut : Place → Tree
  | .top => .broken
  | .firstItem => .array [] false
  | .nextItem items | .afterItem items => .array items.reverse false
  | .firstName => .object [] false
  | .nextName members | .afterMember members => .object members.reverse false
  | .colon members name | .memberValue members name =>
    .object ((name, .broken) :: members).reverse false

/-- The frame that stays open while a value at this place is read; none where no value may be. -/
def Place.frames? : Place → Option (List Frame)
  | .top => some []
  | .firstItem => some [.list []]
  | .nextItem items => some [.list items]
  | .memberValue members name => some [.record members name]
  | _ => none

/-- The place after a value, given the frame around it. -/
def Frame.after (value : Tree) : Frame → Place
  | .list items => .afterItem (value :: items)
  | .record members name => .afterMember ((name, value) :: members)

/-- The value that a token alone stands for. -/
def Token.leaf? : Token → Option Tree
  | .null => some .null
  | .bool value => some (.bool value)
  | .number literal => some (.number literal.number?)
  | .string text => some (.string text)
  | _ => none

/-- What one step of reading comes to: the draft, if it is complete or the text breaks, or the next
place and the frames around it. -/
inductive Step where
  | done (draft : Draft)
  | goOn (place : Place) (frames : List Frame)
  deriving Repr

def Place.stop (place : Place) (frames : List Frame) : Step :=
  .done ⟨closeFrames place.cut frames, false⟩

/-- A value is complete inside open containers. -/
def deliver (value : Tree) (more : Bool) : List Frame → Step
  | [] => .done ⟨value, more⟩
  | frame :: rest => .goOn (frame.after value) rest

/-- A value starts with a token. -/
def Place.startValue (place : Place) (frames : List Frame) (token : Token) (more : Bool) : Step :=
  match place.frames? with
  | none => place.stop frames
  | some inner =>
    match token, token.leaf? with
    | _, some value => deliver value more (inner ++ frames)
    | .openArray, _ => .goOn .firstItem (inner ++ frames)
    | .openObject, _ => .goOn .firstName (inner ++ frames)
    | _, _ => place.stop frames

def Place.step (place : Place) (frames : List Frame) (token : Token) (more : Bool) : Step :=
  match place, token with
  | .firstItem, .closeArray => deliver (.array [] true) more frames
  | .afterItem items, .closeArray => deliver (.array items.reverse true) more frames
  | .afterItem items, .comma => .goOn (.nextItem items) frames
  | .firstName, .closeObject => deliver (.object [] true) more frames
  | .firstName, .string name => .goOn (.colon [] name) frames
  | .nextName members, .string name => .goOn (.colon members name) frames
  | .colon members name, .colon => .goOn (.memberValue members name) frames
  | .afterMember members, .closeObject =>
    deliver (.object members.reverse true) more frames
  | .afterMember members, .comma => .goOn (.nextName members) frames
  | _, _ => place.startValue frames token more

/-- Reads tokens from a place inside open containers. -/
def Draft.ofTokens (place : Place) (frames : List Frame) : List Token → Draft
  | [] => ⟨closeFrames place.cut frames, false⟩
  | token :: rest =>
    match place.step frames token (!rest.isEmpty) with
    | .done draft => draft
    | .goOn place frames => Draft.ofTokens place frames rest

def Draft.ofText (text : String) : Draft :=
  .ofTokens .top [] (scan text.toList)

/-- No part of the value breaks the text. -/
def Tree.isWhole : Tree → Bool
  | .array _ closed | .object _ closed => closed
  | .broken => false
  | _ => true

mutual

/-- The value of a tree, the members of objects sorted by name; none if the text breaks in it, or
a string or a number in it stands for nothing. -/
def Tree.value? : Tree → Option Value
  | .null => some .null
  | .bool value => some (.bool value)
  | .number value => value.map .number
  | .string text => text.map .string
  | .array items closed => if closed then (valueItems? items).map .array else none
  | .object members closed =>
    if closed then (valueMembers? members).map fun ms => .object (sortMembers ms) else none
  | .broken => none

def valueItems? : List Tree → Option (List Value)
  | [] => some []
  | t :: rest => do pure ((← t.value?) :: (← valueItems? rest))

def valueMembers? : List (Option String × Tree) → Option (List (String × Value))
  | [] => some []
  | (name, t) :: rest => do pure ((← name, ← t.value?) :: (← valueMembers? rest))

end

mutual

def Value.tree : Value → Tree
  | .null => .null
  | .bool value => .bool value
  | .number value => .number (some value)
  | .string text => .string (some text)
  | .array items => .array (treeItems items) true
  | .object members => .object (treeMembers members) true

def treeItems : List Value → List Tree
  | [] => []
  | v :: rest => v.tree :: treeItems rest

def treeMembers : List (String × Value) → List (Option String × Tree)
  | [] => []
  | (name, v) :: rest => (some name, v.tree) :: treeMembers rest

end

def Value.ofText? (text : String) : Option Value :=
  let draft := Draft.ofText text
  if draft.trailing then none else draft.tree.value?

end GridBeans.Json
