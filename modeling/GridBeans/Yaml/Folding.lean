import GridBeans.Yaml.Place

/-!
# Line folding

A scalar that goes on over several lines: the blanks between two parts of it are kept on one line,
a single break between them becomes a space, and of several breaks the first is dropped.
-/
namespace GridBeans.Yaml

/-- The text of a scalar so far, in reverse, and the gap behind it. -/
structure Folding where
  text : List Char
  blanks : List Char
  /-- The gap holds a break, so blanks in it no longer count. -/
  broken : Bool
  firstBreak : List Char
  /-- The breaks after the first one, in reverse. -/
  moreBreaks : List Char
  deriving DecidableEq, Repr

namespace Folding

def empty : Folding := ⟨[], [], false, [], []⟩

def push (f : Folding) (c : Char) : Folding :=
  { f with text := c :: f.text }

def blank (f : Folding) (c : Char) : Folding :=
  if f.broken then f else { f with blanks := c :: f.blanks }

def lineBreak (f : Folding) (text : List Char) : Folding :=
  if f.broken then { f with moreBreaks := text ++ f.moreBreaks }
  else { f with blanks := [], firstBreak := text, broken := true }

/-- The gap as it enters the scalar, in reverse. -/
def gap (f : Folding) : List Char :=
  if f.broken then
    if f.firstBreak = ['\n'] then (if f.moreBreaks.isEmpty then [' '] else f.moreBreaks)
    else f.moreBreaks ++ f.firstBreak
  else f.blanks

/-- Closes the gap: the scalar goes on. -/
def join (f : Folding) : Folding :=
  ⟨f.gap ++ f.text, [], false, [], []⟩

/-- The text of the scalar without the gap behind it. -/
def result (f : Folding) : String :=
  String.ofList f.text.reverse

end Folding

end GridBeans.Yaml
