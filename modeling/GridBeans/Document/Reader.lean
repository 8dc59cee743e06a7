import GridBeans.Document.Fault
import GridBeans.Json.Value

/-!
# Reading records from documents

A record type is described once, as an applicative combination of its fields in declaration
order, and can then be read from every format with a `Source` instance. A document may have
several faults; the one that counts is the first in the order of the document, so every fault
found in a record carries the position of the member it belongs to.
-/
namespace GridBeans.Document

open GridBeans.Decimal (Double)

/-- What a record has for a field that its document leaves out. -/
inductive Presence where
  /-- Nothing, and so it has for a field that is null. -/
  | optional
  /-- A fixed value; null is a fault. -/
  | defaulted
  /-- The field has to be there. -/
  | required
  deriving DecidableEq, Repr

/-- What the values of a field are, for the description of a record. -/
inductive Kind where
  | text | integer | double | bool
  | list (items : Kind)
  | record (name : String) (fields : List (String × Presence × Kind))
  | choice (name : String)
  deriving Repr

structure FieldInfo where
  name : String
  presence : Presence
  kind : Kind
  /-- The default that the description shows. -/
  shown : Option Json.Value
  note : Option String

/-- The items of a list, and what is wrong with the text behind them. -/
structure Items (ν : Type) where
  items : List ν
  flaw : Option Fault

/-- The values given for a record's fields in the order of the document. -/
structure Members (ν : Type) where
  given : List (String × ν)
  /-- The first fault that belongs to no field's value, with its position. -/
  flaw : Option (Nat × Fault)
  /-- What is wrong if a field is not given. -/
  missing : FieldInfo → Option Fault

/-- A format whose values can be read as simple values, lists and records. -/
class Source (ν : Type) where
  text : ν → Except Fault String
  integer : ν → Except Fault Int
  double : ν → Except Fault Double
  bool : ν → Except Fault Bool
  /-- The value says that an optional field has no value. -/
  isAbsent : ν → Except Fault Bool
  items : ν → Except Fault (Items ν)
  /-- One of the known names. -/
  choice : List String → ν → Except Fault String
  members : String → List FieldInfo → ν → Except Fault (Members ν)

/-- How a value of a type is read. -/
structure Codec (ν α : Type) where
  kind : Kind
  read : ν → Except Fault α

/-- How the fields of a record are read; a fault carries the position of its member. -/
structure Fields (ν α : Type) where
  infos : List FieldInfo
  read : Members ν → Except (Nat × Fault) α

/-- The fault that comes first in the document; at one position, the first of the two. -/
def earlier (f g : Nat × Fault) : Nat × Fault :=
  if g.1 < f.1 then g else f

/-- Both results, or the earliest fault. -/
def both {α β : Type} (f : Except (Nat × Fault) (α → β)) (x : Except (Nat × Fault) α) :
    Except (Nat × Fault) β :=
  match f, x with
  | .ok f, .ok x => .ok (f x)
  | .ok _, .error e => .error e
  | .error e, .ok _ => .error e
  | .error e, .error e' => .error (earlier e e')

instance (ν : Type) : Applicative (Fields ν) where
  pure a := ⟨[], fun _ => .ok a⟩
  seq f x :=
    let x := x ()
    ⟨f.infos ++ x.infos, fun m => both (f.read m) (x.read m)⟩

section Codecs

variable {ν : Type} [Source ν] {α : Type}

def text : Codec ν String := ⟨.text, Source.text⟩

def integer : Codec ν Int := ⟨.integer, Source.integer⟩

def double : Codec ν Double := ⟨.double, Source.double⟩

def bool : Codec ν Bool := ⟨.bool, Source.bool⟩

def list (item : Codec ν α) : Codec ν (List α) :=
  ⟨.list item.kind, fun v => do
    let found ← Source.items v
    let values ← found.items.mapM item.read
    match found.flaw with
    | none => .ok values
    | some fault => .error fault⟩

/-- One of several named values. -/
def choice (name : String) (known : List (String × α)) : Codec ν α :=
  ⟨.choice name, fun v => do
    let names := known.map Prod.fst
    let chosen ← Source.choice names v
    match known.lookup chosen with
    | some a => .ok a
    | none => .error (.unknownChoice chosen names)⟩

/-- The value given for a name, with its position. -/
def Members.find? (m : Members ν) (name : String) : Option (Nat × ν) :=
  match m.given.findIdx? (·.1 == name) with
  | some i => m.given[i]?.map fun member => (i, member.2)
  | none => none

def atPosition (position : Nat) : Except Fault α → Except (Nat × Fault) α
  | .ok a => .ok a
  | .error fault => .error (position, fault)

/-- A field of a record: its value where it is given, or a value in its absence. -/
def field (info : FieldInfo) (read : ν → Except Fault α) (absent : Option α) : Fields ν α :=
  ⟨[info], fun m =>
    match m.find? info.name with
    | some (position, v) => atPosition position (read v)
    | none =>
      match m.missing info, absent with
      | some fault, _ => .error (m.given.length, fault)
      | none, some a => .ok a
      | none, none => .error (m.given.length, .missingField info.name)⟩

/-- A field that may be left out or null. -/
def optional (name : String) (codec : Codec ν α) : Fields ν (Option α) :=
  field ⟨name, .optional, codec.kind, none, none⟩
    (fun v => do if ← Source.isAbsent v then pure none else some <$> codec.read v) (some none)

/-- A field that has to be given. -/
def required (name : String) (codec : Codec ν α) : Fields ν α :=
  field ⟨name, .required, codec.kind, none, none⟩ codec.read none

/-- A list that is empty if it is left out. -/
def listed (name : String) (item : Codec ν α) : Fields ν (List α) :=
  field ⟨name, .defaulted, .list item.kind, some (.array []), none⟩ (list item).read (some [])

/-- A text that is empty if it is left out. -/
def textOrEmpty (name : String) : Fields ν String :=
  field ⟨name, .defaulted, .text, some (.string ""), none⟩ Source.text (some "")

/-- A switch that is off if it is left out. -/
def switch (name : String) : Fields ν Bool :=
  field ⟨name, .defaulted, .bool, some (.bool false), none⟩ Source.bool (some false)

/-- The same fields with a note on each. -/
def Fields.noted (fields : Fields ν α) (note : String) : Fields ν α :=
  { fields with infos := fields.infos.map fun info => { info with note := some note } }

/-- The same fields without a default in their description. -/
def Fields.withoutDefault (fields : Fields ν α) : Fields ν α :=
  { fields with infos := fields.infos.map fun info => { info with shown := none } }

/-- A record: the earliest fault among those of its fields and its own flaw. -/
def record (name : String) (fields : Fields ν α) : Codec ν α :=
  ⟨.record name (fields.infos.map fun info => (info.name, info.presence, info.kind)), fun v => do
    let m ← Source.members name fields.infos v
    match m.flaw, fields.read m with
    | none, .ok a => .ok a
    | none, .error e => .error e.2
    | some e, .ok _ => .error e.2
    | some e, .error e' => .error (earlier e e').2⟩

end Codecs

end GridBeans.Document
