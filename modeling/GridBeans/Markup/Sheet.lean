import GridBeans.Markup.Tag

/-!
# Sheets

A sheet is a list of lines under construction, with the depth at which the next line goes and two
flags that decide about blank lines. A blank line between two sections is first requested and
written only when the next section starts, so any number of requests gives one blank line. A
request lapses directly after the start of a block and at the end of the block it was made in, so
a block neither starts nor ends with a blank line.
-/
namespace GridBeans.Markup

/-- A line of a sheet. Blank lines have no indentation. -/
inductive Line where
  | blank
  | content (depth : Nat) (piece : Piece)
  deriving DecidableEq, Repr

/-- Where and how the next line of a sheet is written. -/
structure Cursor where
  depth : Nat
  /-- A blank line is wanted before the next section. -/
  blankRequested : Bool
  /-- The last line written opened a block. -/
  atBlockStart : Bool
  deriving DecidableEq, Repr

inductive Mark where
  | line (piece : Piece)
  | opening (piece : Piece)
  | closing (piece : Piece)
  | blank
  | requestBlank
  /-- A section starts here: write the blank line that was requested, if it is still due. -/
  | sectionStart
  deriving DecidableEq, Repr

/-- The lines so far, and the cursor behind them. -/
structure Sheet where
  lines : List Line
  cursor : Cursor
  deriving DecidableEq, Repr

/-- The cursor of an empty sheet whose lines start at a depth. -/
def Cursor.start (depth : Nat) : Cursor :=
  ⟨depth, false, false⟩

def Sheet.empty (depth : Nat) : Sheet :=
  ⟨[], Cursor.start depth⟩

/-- The blank line that is due at the start of a section. -/
def Cursor.blankDue (c : Cursor) : Bool :=
  c.blankRequested && !c.atBlockStart

/-- The line that one action writes, and the cursor after it. -/
def Cursor.step (c : Cursor) : Mark → Option Line × Cursor
  | .line piece => (some (.content c.depth piece), { c with atBlockStart := false })
  | .opening piece => (some (.content c.depth piece), ⟨c.depth + 1, c.blankRequested, true⟩)
  | .closing piece => (some (.content (c.depth - 1) piece), ⟨c.depth - 1, false, false⟩)
  | .blank => (some .blank, { c with atBlockStart := false })
  | .requestBlank => (none, { c with blankRequested := true })
  | .sectionStart =>
    if c.blankDue then (some .blank, ⟨c.depth, false, false⟩)
    else (none, { c with blankRequested := false })

/-- The lines that a list of actions writes, and the cursor after them. -/
def Cursor.run (c : Cursor) : List Mark → List Line × Cursor
  | [] => ([], c)
  | m :: rest =>
    let (line, next) := c.step m
    let (lines, last) := next.run rest
    (line.toList ++ lines, last)

/-- The sheet after a list of actions: its lines stay, and new ones follow. -/
def Sheet.run (s : Sheet) (marks : List Mark) : Sheet :=
  let (lines, cursor) := s.cursor.run marks
  ⟨s.lines ++ lines, cursor⟩

/-- The actions of two lists one after the other write the lines of both. -/
theorem Cursor.run_append (c : Cursor) (xs ys : List Mark) :
    c.run (xs ++ ys) =
      ((c.run xs).1 ++ ((c.run xs).2.run ys).1, ((c.run xs).2.run ys).2) := by
  induction xs generalizing c with
  | nil => rfl
  | cons m rest ih => simp [Cursor.run, ih]

theorem Sheet.run_append (s : Sheet) (xs ys : List Mark) :
    s.run (xs ++ ys) = (s.run xs).run ys := by
  simp [Sheet.run, Cursor.run_append]

def indentation (depth : Nat) : String :=
  String.ofList (List.replicate (4 * depth) ' ')

def Line.render : Line → String
  | .blank => ""
  | .content depth piece => indentation depth ++ piece.render

/-- The text of a list of lines, each with its line end. -/
def renderLines (lines : List Line) : String :=
  String.join (lines.map fun line => line.render ++ "\n")

def Sheet.render (s : Sheet) : String :=
  renderLines s.lines

/-- The text of the lines behind those of an earlier state of the sheet. -/
def Sheet.renderSince (s earlier : Sheet) : String :=
  renderLines (s.lines.drop earlier.lines.length)

end GridBeans.Markup
