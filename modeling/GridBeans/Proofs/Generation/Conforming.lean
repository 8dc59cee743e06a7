import GridBeans.Proofs.Generation.Beans
import GridBeans.Proofs.Markup.Sections
import Mathlib.Data.List.Forall2

/-!
# Shape of a document of beans

What a reader of a configuration relies on, element by element: which children an element may have
and which attributes it needs. The shape is a property of trees alone and says nothing of how a tree
came about. Lines conform if the elements they write do; elements around conforming lines and lines
one after the other conform again.
-/
namespace GridBeans.Xml

/-! ## Trees -/

def Node.tag? : Node → Option String
  | .element name _ _ => some name
  | .text _ => none

mutual

def Node.all : Node → List Node
  | .element name attributes children => .element name attributes children :: allOf children
  | .text content => [.text content]

def allOf : List Node → List Node
  | [] => []
  | node :: rest => node.all ++ allOf rest

end

theorem allOf_append (front back : List Node) :
    allOf (front ++ back) = allOf front ++ allOf back := by
  induction front with
  | nil => rfl
  | cons node rest ih => rw [List.cons_append, allOf, allOf, ih, List.append_assoc]

theorem forall_mem_allOf {P : Node → Prop} {nodes : List Node} :
    (∀ node ∈ allOf nodes, P node) ↔ ∀ node ∈ nodes, ∀ inner ∈ node.all, P inner := by
  induction nodes with
  | nil => simp [allOf]
  | cons node rest ih => rw [allOf, List.forall_mem_append, List.forall_mem_cons, ih]

/-- Nodes that are all elements of some of these names. -/
def Tagged (tags : List String) (nodes : List Node) : Prop :=
  ∀ node ∈ nodes, ∃ tag ∈ tags, node.tag? = some tag

theorem Tagged.one {tags : List String} {tag : String} (inside : tag ∈ tags)
    (attributes : List (String × String)) (children : List Node) :
    Tagged tags [.element tag attributes children] :=
  List.forall_mem_singleton.mpr ⟨tag, inside, rfl⟩

end GridBeans.Xml

namespace GridBeans.Generation

open GridBeans.Xml GridBeans.Markup

/-! ## The shape -/

/-- An attribute of this name is given. -/
def Given (name : String) (attributes : List (String × String)) : Prop :=
  name ∈ attributes.map Prod.fst

/-- What a property or the entry of a map may hold. -/
def valueTags : List String := ["bean", "list", "array", "map", "props", "util:constant"]

/-- What a list or an array may hold. -/
def itemTags : List String := ["value", "bean", "util:constant"]

/-- Exactly one of a value attribute and a single child that is a value. -/
def ValueOrChild (attributes : List (String × String)) (children : List Node) : Prop :=
  (Given "value" attributes ∧ children = []) ∨
    (¬ Given "value" attributes ∧ ∃ child, children = [child] ∧ Tagged valueTags [child])

/-- Properties, no two of the same name. -/
def DistinctProperties (children : List Node) : Prop :=
  Tagged ["property"] children ∧ (children.map (attribute? "name")).Nodup

/-- A node is one of the elements of a document of beans and has the attributes and the children
that such an element has, whatever stands further inside. -/
inductive Conforms : Node → Prop
  | text (content : String) : Conforms (.text content)
  | beans {attributes : List (String × String)} {children : List Node} :
      Tagged ["bean"] children → Conforms (.element "beans" attributes children)
  | bean {attributes : List (String × String)} {children : List Node} :
      Given "class" attributes →
      (DistinctProperties children ∨ Tagged ["constructor-arg"] children) →
      Conforms (.element "bean" attributes children)
  | property {attributes : List (String × String)} {children : List Node} :
      Given "name" attributes → ValueOrChild attributes children →
      Conforms (.element "property" attributes children)
  | constructorArg {attributes : List (String × String)} :
      Given "value" attributes → Conforms (.element "constructor-arg" attributes [])
  | list {attributes : List (String × String)} {children : List Node} :
      Tagged itemTags children → Conforms (.element "list" attributes children)
  | array {attributes : List (String × String)} {children : List Node} :
      Tagged itemTags children → Conforms (.element "array" attributes children)
  | value {attributes : List (String × String)} (content : String) :
      Conforms (.element "value" attributes [.text content])
  | constant {attributes : List (String × String)} :
      Given "static-field" attributes → Conforms (.element "util:constant" attributes [])
  | map {attributes : List (String × String)} {children : List Node} :
      Tagged ["entry"] children → Conforms (.element "map" attributes children)
  | entry {attributes : List (String × String)} {children : List Node} :
      Given "key" attributes → ValueOrChild attributes children →
      Conforms (.element "entry" attributes children)
  | props {attributes : List (String × String)} {children : List Node} :
      Tagged ["prop"] children → Conforms (.element "props" attributes children)
  | prop {attributes : List (String × String)} (content : String) :
      Given "key" attributes → Conforms (.element "prop" attributes [.text content])

/-! ## The nodes that lines write -/

/-- The nodes that stand on lines. -/
def nodesOf (lines : List Line) : List Node :=
  forest (lines.filterMap Line.piece?)

/-- Each element on the lines is closed where it should be. -/
def WholeLines (lines : List Line) : Prop :=
  Whole (lines.filterMap Line.piece?)

section

variable {front back inside : List Line}

theorem nodesOf_append (whole : WholeLines front) :
    nodesOf (front ++ back) = nodesOf front ++ nodesOf back := by
  rw [nodesOf, List.filterMap_append, forest_append whole]
  rfl

theorem WholeLines.append (first : WholeLines front) (second : WholeLines back) :
    WholeLines (front ++ back) := by
  rw [WholeLines, List.filterMap_append]
  exact Whole.append first second

/-- An element around whole lines is whole, since its own tags match. -/
theorem WholeLines.element (element : String) (attributes : List Attribute)
    (whole : WholeLines inside) : WholeLines (elementLines element attributes inside) := by
  rw [WholeLines, filterMap_piece?_elementLines]
  exact Whole.element element attributes whole

/-- An element around whole lines is one node, and what the lines inside write are its children. -/
theorem nodesOf_elementLines (element : String) (attributes : List Attribute)
    (whole : WholeLines inside) :
    nodesOf (elementLines element attributes inside) =
      [.element element (attributes.map Attribute.stated) (nodesOf inside)] := by
  rw [nodesOf, filterMap_piece?_elementLines, forest_element element attributes whole]
  rfl

/-- An element on lines is a node, whatever is in it. -/
theorem nodesOf_elementLines_ne_nil (element : String) (attributes : List Attribute)
    (inside : List Line) : nodesOf (elementLines element attributes inside) ≠ [] :=
  List.cons_ne_nil _ _

end

/-- Groups set apart write what they write one after the other. -/
theorem nodesOf_spaced (groups : List (List Line)) :
    nodesOf (spaced groups) = nodesOf groups.flatten := by
  rw [nodesOf, filterMap_piece?_spaced, ← nodesOf]

/-! ## Conforming lines -/

/-- Lines that write elements of some names, in which every element conforms. -/
structure Shows (tags : List String) (lines : List Line) : Prop where
  whole : WholeLines lines
  tagged : Tagged tags (nodesOf lines)
  conforms : ∀ node ∈ allOf (nodesOf lines), Conforms node

/-- Lines that write a single such element. -/
structure ShowsOne (tags : List String) (lines : List Line) : Prop extends Shows tags lines where
  one : ∃ node, nodesOf lines = [node]

/-- Lines that write properties with some of these names, in this order. -/
structure Lists (names : List String) (lines : List Line) : Prop
    extends Shows ["property"] lines where
  named : ((nodesOf lines).map (attribute? "name")).Sublist (names.map some)

namespace ShowsOne

variable {tags : List String} {inside : List Line}

/-- A tag without content, or a text in its tags. -/
theorem piece {p : Piece} {node : Node} (whole : Whole [p]) (writes : forest [p] = [node])
    (tagged : Tagged tags [node]) (conforms : ∀ inner ∈ node.all, Conforms inner) :
    ShowsOne tags (pieceLines [p]) := by
  have nodes : nodesOf (pieceLines [p]) = [node] := writes
  refine ⟨⟨whole, ?_, ?_⟩, node, nodes⟩
  · rw [nodes]
    exact tagged
  · rw [nodes, allOf, allOf, List.append_nil]
    exact conforms

theorem emptyTag {element : String} {attributes : List Attribute} (inside : element ∈ tags)
    (conforms : Conforms (.element element (attributes.map Attribute.stated) [])) :
    ShowsOne tags (pieceLines [.emptyTag element attributes]) :=
  piece (.emptyTag element attributes) rfl (.one inside _ _)
    (List.forall_mem_singleton.mpr conforms)

theorem leaf {element text : String} {attributes : List Attribute} (inside : element ∈ tags)
    (conforms : Conforms (.element element (attributes.map Attribute.stated) [.text text])) :
    ShowsOne tags (pieceLines [.leaf element attributes text]) :=
  piece (.leaf element attributes text) rfl (.one inside _ _)
    (List.forall_mem_cons.mpr ⟨conforms, List.forall_mem_singleton.mpr (.text text)⟩)

/-- An element around lines conforms if it may have their elements as its children. -/
theorem around {element : String} {attributes : List Attribute} {others : List String}
    (isTag : element ∈ tags) (shows : Shows others inside)
    (conforms : Conforms (.element element (attributes.map Attribute.stated) (nodesOf inside))) :
    ShowsOne tags (elementLines element attributes inside) := by
  have nodes := nodesOf_elementLines element attributes shows.whole
  refine ⟨⟨shows.whole.element element attributes, ?_, ?_⟩, _, nodes⟩
  · rw [nodes]
    exact .one isTag _ _
  · rw [nodes, allOf, allOf, List.append_nil, Node.all]
    exact List.forall_mem_cons.mpr ⟨conforms, shows.conforms⟩

end ShowsOne

namespace Shows

variable {tags : List String} {front back : List Line}

theorem nil : Shows tags [] :=
  ⟨Whole.nil, List.forall_mem_nil _, List.forall_mem_nil _⟩

theorem append (first : Shows tags front) (second : Shows tags back) :
    Shows tags (front ++ back) := by
  have nodes : nodesOf (front ++ back) = nodesOf front ++ nodesOf back :=
    nodesOf_append first.whole
  refine ⟨first.whole.append second.whole, ?_, ?_⟩
  · rw [nodes]
    exact List.forall_mem_append.mpr ⟨first.tagged, second.tagged⟩
  · rw [nodes, allOf_append]
    exact List.forall_mem_append.mpr ⟨first.conforms, second.conforms⟩

theorem flatMap {α : Type} {items : List α} {f : α → List Line}
    (each : ∀ a ∈ items, Shows tags (f a)) : Shows tags (items.flatMap f) := by
  induction items with
  | nil => exact .nil
  | cons a rest ih =>
    rw [List.forall_mem_cons] at each
    exact each.1.append (ih each.2)

/-- Groups set apart show what they show one after the other. -/
theorem spaced {groups : List (List Line)} (joined : Shows tags groups.flatten) :
    Shows tags (spaced groups) := by
  refine ⟨?_, ?_, ?_⟩
  · rw [WholeLines, filterMap_piece?_spaced]
    exact joined.whole
  · rw [nodesOf_spaced]
    exact joined.tagged
  · rw [nodesOf_spaced]
    exact joined.conforms

theorem blank : Shows tags [.blank] :=
  ⟨Whole.nil, List.forall_mem_nil _, List.forall_mem_nil _⟩

theorem comment (text : String) : Shows tags (pieceLines [.comment text]) :=
  ⟨Whole.comment text, List.forall_mem_nil _, List.forall_mem_nil _⟩

/-- A row for each item. -/
theorem rows {α : Type} (items : List α) {row : α → Piece}
    (each : ∀ a, ShowsOne tags (pieceLines [row a])) :
    Shows tags (pieceLines (items.map row)) := by
  induction items with
  | nil => exact .nil
  | cons a rest ih => exact (each a).toShows.append ih

end Shows

/-! ## Properties and beans -/

namespace Lists

variable {names others : List String} {front back inside : List Line}

theorem nil : Lists names [] :=
  ⟨.nil, List.nil_sublist _⟩

/-- Lists of properties one after the other: the names follow each other as well. -/
theorem append (first : Lists names front) (second : Lists others back) :
    Lists (names ++ others) (front ++ back) := by
  refine ⟨first.toShows.append second.toShows, ?_⟩
  rw [nodesOf_append first.whole, List.map_append, List.map_append]
  exact first.named.append second.named

/-- Lines of one property ahead of others. -/
theorem next {name : String} (first : Lists [name] front) (rest : Lists others back) :
    Lists (name :: others) (front ++ back) :=
  first.append rest

theorem ite (condition : Prop) [Decidable condition] (first : Lists names front)
    (second : Lists names back) : Lists names (if condition then front else back) := by
  split
  · exact first
  · exact second

/-- Properties for the items of a list, each under the name of its item. -/
theorem flatMap {α : Type} {items : List α} {name : α → String} {f : α → List Line}
    (each : ∀ a ∈ items, Lists [name a] (f a)) : Lists (items.map name) (items.flatMap f) := by
  induction items with
  | nil => exact .nil
  | cons a rest ih =>
    rw [List.forall_mem_cons] at each
    exact each.1.next (ih each.2)

/-- Groups set apart have the names of all groups. -/
theorem spaced {names : List (List String)} {groups : List (List Line)}
    (each : List.Forall₂ Lists names groups) : Lists names.flatten (spaced groups) := by
  have joined : Lists names.flatten groups.flatten := by
    induction each with
    | nil => exact .nil
    | cons first _ ih => exact first.append ih
  refine ⟨joined.toShows.spaced, ?_⟩
  rw [nodesOf_spaced]
  exact joined.named

/-- Lines that list properties under different names write no property twice. -/
theorem distinct (lists : Lists names inside) (noneTwice : names.Nodup) :
    DistinctProperties (nodesOf inside) := by
  refine ⟨lists.tagged, lists.named.nodup ?_⟩
  exact noneTwice.map fun _ _ => Option.some.inj

/-- Lines that list one name hold one property of that name, if any element at all. -/
theorem only {name : String} (lists : Lists [name] inside) (filled : nodesOf inside ≠ []) :
    ∃ node, nodesOf inside = [node] ∧ node.tag? = some "property" ∧
      attribute? "name" node = some name := by
  obtain ⟨node, rest, nodes⟩ := List.exists_cons_of_ne_nil filled
  have named := lists.named
  rw [nodes, List.map_cons, List.map_singleton] at named
  obtain ⟨tag, isProperty, tagged⟩ := lists.tagged node (nodes ▸ List.mem_cons_self)
  cases rest with
  | nil =>
    refine ⟨node, nodes, ?_, ?_⟩
    · rw [tagged, List.mem_singleton.mp isProperty]
    · simpa using named
  | cons other others =>
    have short := named.length_le
    simp at short

end Lists

end GridBeans.Generation
