import GridBeans.Json.Token

/-!
# Reading properties

The line format of properties files. A text is scanned character by character into logical lines:
comments and blank lines are skipped, and a line whose last backslash is not escaped goes on in the
next one, behind its leading blanks. Each logical line is an entry: its key ends at the first
separator or blank that is not escaped, and escapes are resolved in key and value.
-/
namespace GridBeans.Properties

open Json (StringPart joinParts)

/-! ## Characters -/

def isBlank (c : Char) : Bool := c = ' ' || c = '\t' || c = '\x0c'

def isLineEnd (c : Char) : Bool := c = '\n' || c = '\r'

/-- A character that makes a comment of the line it begins. -/
def isMark (c : Char) : Bool := c = '#' || c = '!'

def isSeparator (c : Char) : Bool := c = '=' || c = ':'

/-- A character that ends a key unless it is escaped. -/
def endsKey (c : Char) : Bool := isSeparator c || isBlank c

/-! ## Logical lines -/

/-- Where a scan is within its line. -/
inductive Place where
  /-- Behind nothing but blanks. -/
  | start
  | comment
  /-- In an entry, behind a character that escapes nothing. -/
  | inside
  /-- In an entry, behind a backslash that escapes what comes. -/
  | escaping
  /-- Where an entry goes on, behind nothing but blanks. -/
  | continued
  /-- Where an entry goes on, behind a carriage return that a line feed may belong to. -/
  | returned
  deriving DecidableEq, Repr

/-- The place of a scan, what it has of the current logical line, and the lines before it. -/
structure Scan where
  place : Place
  line : List Char
  lines : List (List Char)
  deriving DecidableEq, Repr

namespace Scan

def initial : Scan := ⟨.start, [], []⟩

def add (s : Scan) (c : Char) : Scan :=
  ⟨if c = '\\' then .escaping else .inside, s.line ++ [c], s.lines⟩

/-- Ends the current line, which counts unless nothing is left of it. -/
def endLine (s : Scan) : Scan :=
  ⟨.start, [], if s.line = [] then s.lines else s.lines ++ [s.line]⟩

def step (s : Scan) (c : Char) : Scan :=
  match s.place with
  | .start =>
    if isBlank c || isLineEnd c then s
    else if isMark c then { s with place := .comment }
    else s.add c
  | .comment => if isLineEnd c then ⟨.start, [], s.lines⟩ else s
  | .inside => if isLineEnd c then s.endLine else s.add c
  | .escaping =>
    if isLineEnd c then
      ⟨if c = '\r' then .returned else .continued, s.line.dropLast, s.lines⟩
    else { s.add c with place := .inside }
  | .continued =>
    if isBlank c then s else if isLineEnd c then s.endLine else s.add c
  | .returned =>
    if isBlank c || c = '\n' then { s with place := .continued }
    else if isLineEnd c then s.endLine
    else s.add c

def run (s : Scan) (cs : List Char) : Scan := cs.foldl step s

/-- The scan of a text that another text stands before. -/
def behind (lines : List (List Char)) (s : Scan) : Scan := { s with lines := lines ++ s.lines }

theorem run_append (s : Scan) (cs ds : List Char) : s.run (cs ++ ds) = (s.run cs).run ds :=
  List.foldl_append

theorem step_behind (lines : List (List Char)) (s : Scan) (c : Char) :
    (s.behind lines).step c = (s.step c).behind lines := by
  obtain ⟨place, line, before⟩ := s
  cases place <;> grind [step, behind, add, endLine]

/-- What stands before a text changes nothing but the lines before it. -/
theorem run_behind (lines : List (List Char)) (s : Scan) (cs : List Char) :
    (s.behind lines).run cs = (s.run cs).behind lines := by
  induction cs generalizing s with
  | nil => rfl
  | cons c cs ih =>
    show ((s.behind lines).step c).run cs = _
    rw [step_behind, ih]
    rfl

/-- Ends the line at the end of a text. -/
def finish (s : Scan) : Scan :=
  if s.place = .escaping then { s with line := s.line.dropLast }.endLine else s.endLine

end Scan

/-- The logical lines of a text. -/
def logicalLines (cs : List Char) : List (List Char) :=
  (Scan.initial.run cs).finish.lines

/-! ## Entries -/

/-- What an escaped character stands for, unless it announces digits. -/
def escapedForm (c : Char) : Char :=
  if c = 't' then '\t' else if c = 'n' then '\n' else if c = 'r' then '\r'
  else if c = 'f' then '\x0c' else c

/-- Where the reading of escapes is: between them, behind a backslash, or among digits, with the
number of those that come after the next one and the value of those before it. -/
inductive Escape where
  | between
  | begun
  | digits (left value : Nat)
  deriving DecidableEq, Repr

/-- The characters and units that a text with escapes stands for; none if digits are missing. -/
def resolveFrom : Escape → List Char → Option (List StringPart)
  | .between, [] => some []
  | .between, c :: cs =>
    if c = '\\' then resolveFrom .begun cs else (resolveFrom .between cs).map (.char c :: ·)
  | .begun, [] => some []
  | .begun, c :: cs =>
    if c = 'u' then resolveFrom (.digits 3 0) cs
    else (resolveFrom .between cs).map (.char (escapedForm c) :: ·)
  | .digits _ _, [] => none
  | .digits left value, c :: cs =>
    match Text.digit? 16 c, left with
    | none, _ => none
    | some d, 0 => (resolveFrom .between cs).map (.code (16 * value + d) :: ·)
    | some d, left + 1 => resolveFrom (.digits left (16 * value + d)) cs

/-- The text that a text with escapes stands for, if it stands for any. -/
def resolve (cs : List Char) : Option (List Char) :=
  (resolveFrom .between cs).bind joinParts

/-- The key of a line as it is written, and the text from its end on. -/
def cutKey (escaped : Bool) : List Char → List Char × List Char
  | [] => ([], [])
  | c :: cs =>
    if !escaped && endsKey c then ([], c :: cs)
    else
      let (key, rest) := cutKey (!escaped && c = '\\') cs
      (c :: key, rest)

/-- The value behind a key: blanks around at most one separator do not count. -/
def cutValue (cs : List Char) : List Char :=
  match cs.dropWhile isBlank with
  | [] => []
  | c :: rest => if isSeparator c then rest.dropWhile isBlank else c :: rest

/-- The key and the value of a logical line. -/
def readLine (line : List Char) : Option (String × String) := do
  let (key, rest) := cutKey false line
  pure (String.ofList (← resolve key), String.ofList (← resolve (cutValue rest)))

/-- The entries of a text, in order; none if an escape is malformed. -/
def readProperties (text : String) : Option (List (String × String)) :=
  (logicalLines text.toList).mapM readLine

example : readProperties "# a\\\n \t! b\r\nk\\ 1 \\\r\n  = v\\\n  \\u0077\\\n\nend" =
    some [("k 1", "vw"), ("end", "")] := by decide

end GridBeans.Properties
