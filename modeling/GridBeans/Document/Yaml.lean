import GridBeans.Document.References
import GridBeans.Yaml.Plain

/-!
# Records from YAML

A record is a mapping, a list is a sequence, and an empty document or an empty plain scalar is a
record or a list without content. A text is any scalar; the other simple values are plain scalars,
or literal ones with the tag of their type. All faults are alike: the document does not fit, or
too many references have to be followed.
-/
namespace GridBeans.Document

open GridBeans.Yaml (Node Tag)
open GridBeans.Decimal (Double)

/-- A node to be read, in its document. There is none in an empty stream. -/
structure YamlNode where
  document : Yaml.Document
  node : Option Node

/-- The node itself, or the one that it refers to. -/
def YamlNode.target (n : YamlNode) : Option Node :=
  n.node.bind n.document.resolve?

def YamlNode.inner (n : YamlNode) (node : Node) : YamlNode :=
  ⟨n.document, some node⟩

def orMalformed {α : Type} : Option α → Except Fault α
  | some a => .ok a
  | none => .error .malformed

/-- There is nothing: an empty stream, or an empty plain scalar. -/
def isNothing : Option Node → Bool
  | none => true
  | some (.scalar .plain _ text) => text.isEmpty
  | _ => false

def yamlText (n : YamlNode) : Except Fault String :=
  match n.target with
  | some (.scalar _ _ text) => .ok text
  | _ => .error .malformed

/-- The text of a scalar that may stand for a value of a type other than text. -/
def typedText (n : YamlNode) (type : String) : Except Fault String :=
  match n.target with
  | some (.scalar .plain _ text) => .ok text
  | some (.scalar .literal (some tag) text) =>
    if tag = Tag.core type then .ok text else .error .malformed
  | _ => .error .malformed

/-- The value of an optional field is null. A tag other than that of null makes it a value. -/
def yamlAbsent (n : YamlNode) : Except Fault Bool :=
  match n.target with
  | none => .ok true
  | some (.scalar .plain (some tag) text) =>
    if tag = Tag.core "null" then
      if Yaml.isNullWord text then .ok true else .error .malformed
    else .ok false
  | some (.scalar .plain none text) => .ok (text.isEmpty || Yaml.isNullWord text)
  | some _ => .ok false

/-- A scalar names a choice by its text, or by a tag with a name of its own ahead of a null. -/
def yamlChoice (known : List String) (n : YamlNode) : Except Fault String :=
  match n.target with
  | some (.scalar style tag text) =>
    match tag.bind Tag.ownName? with
    | some name =>
      if known.contains name && style = .plain && (text.isEmpty || Yaml.isNullWord text) then
        .ok name
      else .error .malformed
    | none => if known.contains text then .ok text else .error .malformed
  | _ => .error .malformed

/-- The entries of a mapping by the texts of their keys. -/
def namedEntries (n : YamlNode) (entries : List (Node × Node)) :
    Except Fault (List (String × YamlNode)) :=
  entries.mapM fun (key, value) => do
    let name ← yamlText (n.inner key)
    pure (name, n.inner value)

def hasDuplicate (fields : List String) (seen : List String) : List String → Bool
  | [] => false
  | name :: rest =>
    if fields.contains name then seen.contains name || hasDuplicate fields (name :: seen) rest
    else hasDuplicate fields seen rest

def yamlMembers (infos : List FieldInfo) (n : YamlNode) : Except Fault (Members YamlNode) := do
  let given ←
    match n.target with
    | some (.mapping entries) => namedEntries n entries
    | node => if isNothing node then pure [] else .error .malformed
  if hasDuplicate (infos.map (·.name)) [] (given.map Prod.fst) then .error .malformed
  else
    .ok {
      given := given
      flaw := none
      missing := fun info =>
        match info.presence with
        | .required => some .malformed
        | .optional | .defaulted => none }

instance : Source YamlNode where
  text := yamlText
  integer n := do orMalformed (Yaml.integerWord? (← typedText n "int"))
  double n := do orMalformed (Yaml.doubleWord? (← typedText n "float"))
  bool n := do orMalformed (Yaml.boolWord? (← typedText n "bool"))
  isAbsent := yamlAbsent
  items n :=
    match n.target with
    | some (.sequence items) => .ok ⟨items.map n.inner, none⟩
    | node => if isNothing node then .ok ⟨[], none⟩ else .error .malformed
  choice := yamlChoice
  members _ := yamlMembers

def readYamlText {α : Type} (codec : Codec YamlNode α) (text : String) : Except Fault α := do
  let document ← orMalformed (Yaml.Document.ofText? text)
  if isFollowable document codec.kind then codec.read ⟨document, document.root⟩
  else .error .malformed

end GridBeans.Document
