import GridBeans.Document.Reader
import GridBeans.Json.Draft

/-!
# Records from JSON

A record is an object, or a list of its fields in declaration order. A choice is a string, or an
object whose one member has the name of the choice and no value. The same rules hold for a text
and for a value that has been read already; they differ in what is said about a choice of another
form and about a list that is too long.
-/
namespace GridBeans.Document

open GridBeans.Json (Tree Draft Value)
open GridBeans.Decimal (Double isWord)

/-- Where a JSON value comes from. -/
inductive Origin where
  | text | value
  deriving DecidableEq, Repr

structure JsonNode where
  origin : Origin
  tree : Tree

/-- What a tree is found to be when something else was expected. -/
def found (t : Tree) : Except Fault Found :=
  match t with
  | .null => .ok .null
  | .bool value => .ok (.bool value)
  | .number (some value) => .ok (.number value)
  | .string (some text) => .ok (.string text)
  | .array .. => .ok .sequence
  | .object .. => .ok .map
  | .number none | .string none | .broken => .error .malformed

/-- The fault of a tree that is not what was expected. -/
def mismatch {α : Type} (t : Tree) (expected : Expected) : Except Fault α := do
  let f ← found t
  .error (.invalidType f expected)

def jsonText (t : Tree) : Except Fault String :=
  match t with
  | .string (some text) => .ok text
  | t => mismatch t .string

def jsonInteger (t : Tree) : Except Fault Int :=
  match t with
  | .number (some (.integer i)) =>
    if isWord i then .ok i else .error (.invalidValue (.number (.integer i)) .integer)
  | t => mismatch t .integer

def jsonDouble (t : Tree) : Except Fault Double :=
  match t with
  | .number (some (.integer i)) => .ok (Double.ofInt i)
  | .number (some (.double d)) => .ok d
  | t => mismatch t .double

def jsonBool (t : Tree) : Except Fault Bool :=
  match t with
  | .bool value => .ok value
  | t => mismatch t .bool

/-- A choice that has been given by name and, in the form of an object, a value. -/
def jsonNamed (known : List String) (name : String) (value : Option Tree) :
    Except Fault String :=
  if known.contains name then
    match value with
    | none | some .null => .ok name
    | some t => mismatch t .unit
  else .error (.unknownChoice name known)

def jsonChoice (known : List String) (node : JsonNode) : Except Fault String :=
  match node.origin, node.tree with
  | _, .string (some name) => jsonNamed known name none
  | .value, .object [(some name, value)] _ => jsonNamed known name (some value)
  | .value, .object .. => .error (.invalidValue .map .singleMember)
  | .value, t => mismatch t .choice
  | .text, .object ((some name, value) :: rest) closed => do
    let chosen ← jsonNamed known name (some value)
    if rest.isEmpty && closed then .ok chosen else .error .malformed
  | .text, _ => .error .malformed

/-- The first flaw among members from a position on: a second value for one of the fields, or a
value that belongs to no field and breaks the text. -/
def memberFlaw (fields : List String) (position : Nat) (seen : List String) :
    List (String × Tree) → Option (Nat × Fault)
  | [] => none
  | (name, t) :: rest =>
    if fields.contains name then
      if seen.contains name then some (position, .duplicateField name)
      else memberFlaw fields (position + 1) (name :: seen) rest
    else if t.isWhole then memberFlaw fields (position + 1) seen rest
    else some (position, .malformed)

/-- The members up to the first name that stands for no text. -/
def readableMembers : List (Option String × Tree) → List (String × Tree)
  | (some name, t) :: rest => (name, t) :: readableMembers rest
  | _ => []

/-- A record given by name. -/
def namedMembers (origin : Origin) (infos : List FieldInfo)
    (members : List (Option String × Tree)) (closed : Bool) : Members JsonNode :=
  let readable := readableMembers members
  { given := readable.map fun (name, t) => (name, ⟨origin, t⟩)
    flaw :=
      match memberFlaw (infos.map (·.name)) 0 [] readable with
      | some flaw => some flaw
      | none =>
        if readable.length = members.length && closed then none
        else some (readable.length, .malformed)
    missing := fun info =>
      match info.presence with
      | .required => some (.missingField info.name)
      | .optional | .defaulted => none }

/-- A record given by position. -/
def positionalMembers (origin : Origin) (record : String) (infos : List FieldInfo)
    (items : List Tree) (closed : Bool) : Members JsonNode :=
  { given := (infos.map (·.name)).zip (items.map fun t => ⟨origin, t⟩)
    flaw :=
      if infos.length < items.length then
        some (infos.length,
          match origin with
          | .text => .malformed
          | .value => .longList items.length)
      else if closed then none
      else some (items.length, .malformed)
    missing := fun info =>
      match info.presence with
      | .defaulted => none
      | .optional | .required =>
        some (.shortRecord (infos.findIdx (·.name == info.name)) record infos.length) }

instance : Source JsonNode where
  text node := jsonText node.tree
  integer node := jsonInteger node.tree
  double node := jsonDouble node.tree
  bool node := jsonBool node.tree
  isAbsent node :=
    .ok (match node.tree with
      | .null => true
      | _ => false)
  items node :=
    match node.tree with
    | .array items closed =>
      .ok ⟨items.map fun t => ⟨node.origin, t⟩, if closed then none else some .malformed⟩
    | t => mismatch t .sequence
  choice := jsonChoice
  members name infos node :=
    match node.tree with
    | .object members closed => .ok (namedMembers node.origin infos members closed)
    | .array items closed => .ok (positionalMembers node.origin name infos items closed)
    | t => mismatch t (.record name)

/-- Reads a JSON text. Text behind the value counts only if the value itself has no fault. -/
def readJsonText {α : Type} (codec : Codec JsonNode α) (text : String) : Except Fault α := do
  let draft := Draft.ofText text
  let a ← codec.read ⟨.text, draft.tree⟩
  if draft.trailing then .error .malformed else .ok a

def readJsonValue {α : Type} (codec : Codec JsonNode α) (value : Value) : Except Fault α :=
  codec.read ⟨.value, value.tree⟩

/-- Reads a JSON value that may be null. -/
def readJsonOptional {α : Type} (codec : Codec JsonNode α) (value : Value) :
    Except Fault (Option α) :=
  if value.isNull then .ok none else some <$> readJsonValue codec value

end GridBeans.Document
