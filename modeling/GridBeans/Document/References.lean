import GridBeans.Document.Reader
import GridBeans.Yaml.Node

/-!
# References followed

A node is read once for each reference to it, so a short document can ask for very much reading.
`isFollowable` bounds it: the references followed while a value of a kind is read are at most a
hundred times as many as the starts and ends of nodes in the document. A reference in a member that
is not read does not count.
-/
namespace GridBeans.Document

open GridBeans.Yaml (Node)

/-- The references left of a number after a node has been resolved; none if there are too few. -/
def leftAfter (left : Nat) : Node → Option Nat
  | .reference _ => if left = 0 then none else some (left - 1)
  | _ => some left

mutual

/-- The references left of a number after a value of a kind has been read from a node; none if
there are too few. -/
def leftAfterReading (d : Yaml.Document) : Kind → Nat → Node → Option Nat
  | .list item, left, node => do
    let left ← leftAfter left node
    match d.resolve? node with
    | some (.sequence items) =>
      items.foldlM (fun left inner => leftAfterReading d item left inner) left
    | _ => some left
  | .record _ fields, left, node => do
    let left ← leftAfter left node
    match d.resolve? node with
    | some (.mapping entries) =>
      entries.foldlM (fun left (key, value) => do
        let left ← leftAfter left key
        match d.resolve? key with
        | some (.scalar _ _ name) => leftAfterMember d fields name left value
        | _ => some left) left
    | _ => some left
  | _, left, node => leftAfter left node

/-- The same for the value of the member that has a name; the value of an unknown member is not
read. -/
def leftAfterMember (d : Yaml.Document) :
    List (String × Presence × Kind) → String → Nat → Node → Option Nat
  | [], _, left, _ => some left
  | (known, _, kind) :: rest, name, left, value =>
    if known = name then leftAfterReading d kind left value
    else leftAfterMember d rest name left value

end

/-- Reading the root as a value of a kind does not follow too many references. -/
def isFollowable (d : Yaml.Document) (kind : Kind) : Bool :=
  d.root.all fun node => (leftAfterReading d kind (100 * d.events) node).isSome

end GridBeans.Document
