import GridBeans.Json.Number

/-!
# JSON values

Values with their two written forms: compact, and indented by two spaces. The members of an object
are a list in the order they are written in; `sortMembers` sorts them by name and keeps the last of
several with one name.
-/
namespace GridBeans.Json

inductive Value where
  | null
  | bool (value : Bool)
  | number (value : Number)
  | string (text : String)
  | array (items : List Value)
  | object (members : List (String × Value))
  deriving Repr, BEq

def hexDigit (n : Nat) : Char :=
  Char.ofNat (if n < 10 then 48 + n else 87 + n)

def escapeChar (c : Char) : List Char :=
  if c = '"' then ['\\', '"']
  else if c = '\\' then ['\\', '\\']
  else if c = '\n' then ['\\', 'n']
  else if c = '\r' then ['\\', 'r']
  else if c = '\t' then ['\\', 't']
  else if c.toNat = 8 then ['\\', 'b']
  else if c.toNat = 12 then ['\\', 'f']
  else if c.toNat < 32 then ['\\', 'u', '0', '0', hexDigit (c.toNat / 16), hexDigit (c.toNat % 16)]
  else [c]

def quote (s : String) : String :=
  "\"" ++ String.ofList (s.toList.flatMap escapeChar) ++ "\""

mutual

/-- The written form without any blank. -/
def Value.compact : Value → String
  | .null => "null"
  | .bool value => if value then "true" else "false"
  | .number value => value.render
  | .string text => quote text
  | .array items => "[" ++ compactItems items ++ "]"
  | .object members => "\x7b" ++ compactMembers members ++ "\x7d"

def compactItems : List Value → String
  | [] => ""
  | [v] => v.compact
  | v :: rest => v.compact ++ "," ++ compactItems rest

def compactMembers : List (String × Value) → String
  | [] => ""
  | [(name, v)] => quote name ++ ":" ++ v.compact
  | (name, v) :: rest => quote name ++ ":" ++ v.compact ++ "," ++ compactMembers rest

end

/-- A line break and two spaces for each level. -/
def lineBreak (level : Nat) : String :=
  "\n" ++ String.ofList (List.replicate (2 * level) ' ')

mutual

/-- The written form with a line for each item and member. -/
def Value.pretty (level : Nat) : Value → String
  | .array [] => "[]"
  | .array (v :: rest) =>
    "[" ++ lineBreak (level + 1) ++ v.pretty (level + 1) ++ prettyItems (level + 1) rest ++
      lineBreak level ++ "]"
  | .object [] => "\x7b\x7d"
  | .object ((name, v) :: rest) =>
    "\x7b" ++ lineBreak (level + 1) ++ quote name ++ ": " ++ v.pretty (level + 1) ++
      prettyMembers (level + 1) rest ++ lineBreak level ++ "\x7d"
  | .null => "null"
  | .bool value => if value then "true" else "false"
  | .number value => value.render
  | .string text => quote text

/-- The items after the first one, each on a line of its own. -/
def prettyItems (level : Nat) : List Value → String
  | [] => ""
  | v :: rest => "," ++ lineBreak level ++ v.pretty level ++ prettyItems level rest

/-- The members after the first one, each on a line of its own. -/
def prettyMembers (level : Nat) : List (String × Value) → String
  | [] => ""
  | (name, v) :: rest =>
    "," ++ lineBreak level ++ quote name ++ ": " ++ v.pretty level ++ prettyMembers level rest

end

/-- Puts a member where its name belongs in a list sorted by name, in the place of one of the same
name. -/
def insertMember (name : String) (v : Value) : List (String × Value) → List (String × Value)
  | [] => [(name, v)]
  | (other, w) :: rest =>
    if name < other then (name, v) :: (other, w) :: rest
    else if name = other then (name, v) :: rest
    else (other, w) :: insertMember name v rest

/-- Members sorted by name, the last one of several with one name. -/
def sortMembers (members : List (String × Value)) : List (String × Value) :=
  members.foldl (fun sorted member => insertMember member.1 member.2 sorted) []

def member? (name : String) (members : List (String × Value)) : Option Value :=
  (members.find? fun member => member.1 == name).map Prod.snd

/-- The members of an object; other values have none. -/
def Value.members : Value → List (String × Value)
  | .object members => members
  | _ => []

def Value.isNull : Value → Bool
  | .null => true
  | _ => false

end GridBeans.Json
