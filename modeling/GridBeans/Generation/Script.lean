import GridBeans.Generation.DataSource
import GridBeans.Generation.Failure
import GridBeans.Markup.Sheet

/-!
# Scripts

A script is what a generator does: the marks it makes on a sheet and the data sources it registers,
in order, and then a result or the failure that ended it. A script does not know the sheet it will
be run on, so what it writes depends on its configuration alone. The steps before a failure stay.
-/
namespace GridBeans.Generation

open GridBeans.Markup

inductive Step where
  | mark (m : Mark)
  | register (s : DataSource)
  deriving DecidableEq, Repr

structure Script (α : Type) where
  steps : List Step
  outcome : Except Failure α

namespace Script

variable {α β : Type}

/-- The second script goes on where the first one succeeded. -/
def andThen (x : Script α) (f : α → Script β) : Script β :=
  match x.outcome with
  | .error e => ⟨x.steps, .error e⟩
  | .ok a => let y := f a; ⟨x.steps ++ y.steps, y.outcome⟩

instance : Monad Script where
  pure a := ⟨[], .ok a⟩
  bind := andThen

/-- A script that writes nothing and has a result or fails. -/
def ofExcept (x : Except Failure α) : Script α := ⟨[], x⟩

def fail (e : Failure) : Script α := ⟨[], .error e⟩

def mark (m : Mark) : Script Unit := ⟨[.mark m], .ok ()⟩

def register (s : DataSource) : Script Unit := ⟨[.register s], .ok ()⟩

def line (piece : Piece) : Script Unit := mark (.line piece)

def blank : Script Unit := mark .blank

def requestBlank : Script Unit := mark .requestBlank

def sectionStart : Script Unit := mark .sectionStart

/-- An element around what a script writes. -/
def block (element : String) (attributes : List Attribute) (body : Script Unit) :
    Script Unit := do
  mark (.opening (.startTag element attributes))
  body
  mark (.closing (.endTag element))

def onlyIf (condition : Prop) [Decidable condition] (x : Script Unit) : Script Unit :=
  if condition then x else pure ()

def forSome (value : Option α) (f : α → Script Unit) : Script Unit :=
  match value with
  | some a => f a
  | none => pure ()

def forEach (items : List α) (f : α → Script Unit) : Script Unit :=
  match items with
  | [] => pure ()
  | a :: rest => do
    f a
    forEach rest f

/-- A script for each item, in order, and a blank line between two of them. -/
def forEachSpaced (items : List α) (f : α → Script Unit) : Script Unit :=
  match items with
  | [] => pure ()
  | [a] => f a
  | a :: rest => do
    f a
    blank
    forEachSpaced rest f

end Script

def Step.mark? : Step → Option Mark
  | .mark m => some m
  | .register _ => none

def Step.source? : Step → Option DataSource
  | .mark _ => none
  | .register s => some s

def Script.marks {α : Type} (x : Script α) : List Mark :=
  x.steps.filterMap Step.mark?

/-- The data sources a script registers, repetitions included. -/
def Script.sources {α : Type} (x : Script α) : List DataSource :=
  x.steps.filterMap Step.source?

/-- A script that fails makes the marks up to its failure; one that succeeds goes on. -/
theorem Script.marks_andThen {α β : Type} (x : Script α) (f : α → Script β) :
    (x.andThen f).marks =
      x.marks ++ (match x.outcome with
        | .ok a => (f a).marks
        | .error _ => []) := by
  unfold Script.andThen Script.marks
  cases x.outcome with
  | error e => simp
  | ok a => simp

/-- A script registers the data sources of its parts in order, up to its failure. -/
theorem Script.sources_andThen {α β : Type} (x : Script α) (f : α → Script β) :
    (x.andThen f).sources =
      x.sources ++ (match x.outcome with
        | .ok a => (f a).sources
        | .error _ => []) := by
  unfold Script.andThen Script.sources
  cases x.outcome with
  | error e => simp
  | ok a => simp

def Script.runOn {α : Type} (x : Script α) (sheet : Sheet) : Sheet :=
  sheet.run x.marks

def Script.registerIn {α : Type} (x : Script α) (registry : Registry) : Registry :=
  registry.registerAll x.sources

/-- A sheet and a registry that scripts are run on. -/
structure Desk where
  sheet : Sheet
  registry : Registry
  deriving DecidableEq, Repr

/-- An empty sheet whose lines start at a depth, and an empty registry. -/
def Desk.empty (depth : Nat) : Desk :=
  ⟨Sheet.empty depth, Registry.empty⟩

/-- The desk after a script, whether it succeeds or fails. -/
def Desk.run {α : Type} (d : Desk) (x : Script α) : Desk :=
  ⟨x.runOn d.sheet, x.registerIn d.registry⟩

end GridBeans.Generation
